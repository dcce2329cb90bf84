import ScreenScript.Disk.Error
import ScreenScript.Json.Checked
import ScreenScript.Number.Scalar
import ScreenScript.Picture.Imaging
import ScreenScript.Script.Error
import ScreenScript.Text.Template
import ScreenScript.Web.Flaw

/-!
# Faults

Why a computation breaks off. Some faults are expected and handled where they can occur, for example
those of the bridge; the others end the run.
-/

namespace ScreenScript

/-- Why the bridge to the device has no result. -/
inductive BridgeFault
  /-- the program cannot be started -/
  | notFound (program : Text)
  /-- the command has not ended in time -/
  | timedOut (command : List Text)
  deriving DecidableEq, Repr

/-- The fault in words. -/
def BridgeFault.message : BridgeFault → Text
  | notFound program => "找不到 ADB 可执行文件: ".toList ++ program
  | timedOut command => "ADB 命令超时: ".toList ++ [' '].intercalate command

/-- Why the vision service has not answered a request. -/
inductive VisionFault
  /-- the address of the service is not known -/
  | unconfigured
  /-- the service could not be reached, or its answer could not be taken -/
  | unreachable (reason : Text)
  /-- the service has refused the request -/
  | refused (status : Int) (body : Text)
  /-- the answer to a request for a step is not what it has to be -/
  | malformedStep (complaints : List Complaint)
  /-- the answer to a request for a summary is not what it has to be -/
  | malformedSummary (complaints : List Complaint)
  deriving DecidableEq, Repr

/-- The fault in words. -/
def VisionFault.message : VisionFault → Text
  | unconfigured => "视觉服务地址未配置 (config/credentials.json: lambda_url)".toList
  | unreachable reason => "视觉服务请求失败: ".toList ++ reason
  | refused status body => Text.ofInt status ++ ": ".toList ++ body
  | malformedStep complaints => "视觉服务响应格式错误: ".toList ++ Complaint.listToText complaints
  | malformedSummary complaints => "总结响应格式错误: ".toList ++ Complaint.listToText complaints

/-- Why a computation breaks off. -/
inductive Fault
  /-- a file or folder cannot be read, written or made -/
  | file (error : FileError)
  /-- a file holds octets that encode no text -/
  | undecodable (path : Path)
  /-- the library for pictures has no result -/
  | imaging (flaw : ImagingFlaw)
  /-- a number cannot be computed -/
  | arithmetic (error : ArithmeticError)
  /-- the library for the web breaks off in a way that it does not declare -/
  | web (fault : WebFault)
  /-- a script is malformed -/
  | script (error : ScriptError)
  /-- a configuration file is malformed -/
  | configuration (path : Path) (complaints : List Complaint)
  /-- the bridge to the device has no result -/
  | bridge (fault : BridgeFault)
  /-- a word of a command holds the character zero -/
  | unrunnable (command : List Text)
  /-- the vision service has not answered -/
  | vision (fault : VisionFault)
  /-- a task is none -/
  | foreignTask (what : Text)
  /-- there is no level of this name -/
  | unknownLevel (name : Text)
  /-- there is no sink with this number -/
  | unknownSink (number : Nat)
  /-- the path of a sink is a template that gives no path -/
  | template (flaw : TemplateFlaw)
  deriving DecidableEq, Repr

namespace Fault

/-- Whether the system has refused to read or write, or the library for pictures says that it is refused. -/
def isStorage : Fault → Bool
  | file error => error.isRefusal
  | imaging flaw => flaw.isDeclared
  | _ => false

/-- The fault in words. -/
def message : Fault → Text
  | file error => error.message
  | undecodable path => "cannot decode ".toList ++ Text.literal path.toText
  | imaging flaw => flaw.message
  | arithmetic .overflow => "number too large".toList
  | arithmetic .divisionByZero => "division by zero".toList
  | arithmetic .notANumber => "not a number".toList
  | arithmetic .tooManyDigits => "too many digits".toList
  | web fault => fault.message
  | script (.malformed fault _) => fault.message
  | script .oversizePlaceholder => "placeholder too long".toList
  | configuration path complaints =>
    "配置文件格式错误: ".toList ++ path.toText ++ ": ".toList ++ Complaint.listToText complaints
  | bridge fault => fault.message
  | unrunnable command => "embedded null byte in ".toList ++ Text.literal ([' '].intercalate command)
  | vision fault => fault.message
  | foreignTask what => "未知任务类型: ".toList ++ what
  | unknownLevel name => "no level named ".toList ++ Text.literal name
  | unknownSink number => "no sink numbered ".toList ++ Text.ofNat number
  | template flaw => flaw.message

end Fault

end ScreenScript
