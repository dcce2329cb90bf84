import ScreenScript.Proofs.Script.Fence
import ScreenScript.Proofs.Script.Outline
import ScreenScript.Proofs.Script.Passage
import ScreenScript.Proofs.Text.Shape
import Mathlib.Data.List.Find

/-!
# Other digits

A script compiled with other random digits is the same script: it draws as many digits, it fails at the
same line and for the same reason or not at all, and its tasks differ at most in the digits that stand
in their texts. What reads a line looks for keywords, takes what stands behind one, and reads integers,
and none of this sees which digits have been drawn.

* `Text.Blind` — relations of texts that this is true of
* `Task.Alike`, `ScriptFault.Alike` — tasks and faults that differ at most in their texts
* `Draft.Alike.readLine` — a line keeps what has been collected alike
* `Compilation.Alike.of_scan` — and so does a script
* `Compilation.redraw_changes_digits_only` — two compilations of one script
-/

namespace ScreenScript

/-- What reads a line does not see the difference between related texts: they have the same shape, and
what stands behind a keyword is related again. -/
structure Text.Blind (R : Text → Text → Prop) : Prop where
  sameShape : ∀ {s t}, R s t → Text.SameShape s t
  trim_drop : ∀ {s t}, R s t → ∀ count, R (Text.trim (s.drop count)) (Text.trim (t.drop count))

/-- Pieces of the same outline differ in drawn digits alone. -/
theorem Outline.Twins.blind (outlines : List Outline) (digits₁ digits₂ : DigitStream) :
    Text.Blind (Twins outlines digits₁ digits₂) where
  sameShape := by
    rintro _ _ ⟨_, -, piece, -, rfl, rfl⟩
    refine List.forall₂_map_left_iff.2 (List.forall₂_map_right_iff.2 (List.forall₂_same.2 ?_))
    intro glyph _
    cases glyph with
    | plain c => exact .inl rfl
    | drawn index => exact .inr ⟨digits₁ index, digits₂ index, rfl, rfl⟩
  trim_drop h count := h.trim_drop count

/-! ## What is alike -/

/-- Tasks of one kind whose texts are related. Seconds are alike if they are read from related texts. -/
inductive Task.Alike (R : Text → Text → Prop) : Task → Task → Prop
  | install : Alike R .install .install
  | uninstall {p₁ p₂ : Text} : R p₁ p₂ → Alike R (.uninstall p₁) (.uninstall p₂)
  | clearData {p₁ p₂ : Text} : R p₁ p₂ → Alike R (.clearData p₁) (.clearData p₂)
  | openApp {p₁ p₂ : Text} : R p₁ p₂ → Alike R (.openApp p₁) (.openApp p₂)
  | back : Alike R .back .back
  | home : Alike R .home .home
  | recentApps : Alike R .recentApps .recentApps
  | wait {t₁ t₂ : Text} {n₁ n₂ : Int} : R t₁ t₂ → Text.readInt? t₁ = some n₁ →
    Text.readInt? t₂ = some n₂ → Alike R (.wait (.int n₁)) (.wait (.int n₂))
  | description {t₁ t₂ : Text} : R t₁ t₂ → Alike R (.description t₁) (.description t₂)
  | screen {name₁ name₂ : Text} {assertions₁ assertions₂ actions₁ actions₂ : List Text}
    (isLast : Bool) (kind : StepKind) (maxRepeats : Int) : R name₁ name₂ →
    List.Forall₂ R assertions₁ assertions₂ → List.Forall₂ R actions₁ actions₂ →
    Alike R (.screen ⟨⟨name₁, assertions₁, actions₁, isLast⟩, kind, maxRepeats⟩)
      (.screen ⟨⟨name₂, assertions₂, actions₂, isLast⟩, kind, maxRepeats⟩)

/-- Commands of one kind with tasks that are alike. -/
inductive Command.Alike (R : Text → Text → Prop) : Command → Command → Prop
  | task {task₁ task₂ : Task} : task₁.Alike R task₂ → Alike R (.task task₁) (.task task₂)
  | ignored : Alike R .ignored .ignored
  | other : Alike R .other .other

/-- Readings of one kind with related texts. -/
inductive Line.Alike (R : Text → Text → Prop) : Line → Line → Prop
  | opens (kind : StepKind) {name₁ name₂ : Text} : R name₁ name₂ →
    Alike R (.opens kind name₁) (.opens kind name₂)
  | header (part : Part) : Alike R (.header part) (.header part)
  | memory {t₁ t₂ : Text} : R t₁ t₂ → Alike R (.memory t₁) (.memory t₂)
  | closes : Alike R .closes .closes
  | content : Alike R .content .content

/-- What can be wrong with the steps of a script, with related names. -/
inductive ScriptFault.Alike (R : Text → Text → Prop) : ScriptFault → ScriptFault → Prop
  | unfinishedStep {name₁ name₂ : Text} : R name₁ name₂ →
    Alike R (.unfinishedStep name₁) (.unfinishedStep name₂)
  | strayEnd : Alike R .strayEnd .strayEnd
  | unclosedStep {name₁ name₂ : Text} : R name₁ name₂ →
    Alike R (.unclosedStep name₁) (.unclosedStep name₂)

/-- Errors of one kind about the same line. -/
inductive ScriptError.Alike (R : Text → Text → Prop) : ScriptError → ScriptError → Prop
  | malformed {fault₁ fault₂ : ScriptFault} (line : Text) : fault₁.Alike R fault₂ →
    Alike R (.malformed fault₁ line) (.malformed fault₂ line)
  | oversizePlaceholder : Alike R .oversizePlaceholder .oversizePlaceholder

/-- What has been collected from lines with related texts. -/
structure Draft.Alike (R : Text → Text → Prop) (draft₁ draft₂ : Draft) : Prop where
  tasks : List.Forall₂ (Task.Alike R) draft₁.tasks draft₂.tasks
  opened : draft₁.opened = draft₂.opened
  part : draft₁.part = draft₂.part
  name : draft₁.opened.isSome = true → R draft₁.name draft₂.name
  assertions : List.Forall₂ R draft₁.assertions draft₂.assertions
  actions : List.Forall₂ R draft₁.actions draft₂.actions

/-- Both give something, and what they give is alike, or both fail with errors that are alike. -/
def ScriptError.Agree {α : Type} (R : Text → Text → Prop) (S : α → α → Prop) :
    Except ScriptError α → Except ScriptError α → Prop
  | .ok a, .ok b => S a b
  | .error error₁, .error error₂ => error₁.Alike R error₂
  | _, _ => False

theorem ScriptError.Agree.ok_or_error {α : Type} {R : Text → Text → Prop} {S : α → α → Prop}
    {x y : Except ScriptError α} (h : Agree R S x y) :
    (∃ a b, x = .ok a ∧ y = .ok b ∧ S a b) ∨
      ∃ error₁ error₂, x = .error error₁ ∧ y = .error error₂ ∧ error₁.Alike R error₂ := by
  cases x with
  | ok a =>
    cases y with
    | ok b => exact .inl ⟨a, b, rfl, rfl, h⟩
    | error error₂ => exact h.elim
  | error error₁ =>
    cases y with
    | ok b => exact h.elim
    | error error₂ => exact .inr ⟨error₁, error₂, rfl, rfl, h⟩

/-! ## Reading a line -/

section Reading

variable {R : Text → Text → Prop} {s t raw : Text} {maxRepeats : Int}

namespace Keyword

theorem rel_argument? {word : Text} (hR : Text.Blind R) (h : R s t)
    (hword : word.any Text.isAsciiDigit = false) :
    Option.Rel R (argument? word s) (argument? word t) := by
  rw [argument?, argument?, (hR.sameShape h).lower.isPrefixOf_eq hword]
  split
  · exact .some (hR.trim_drop h _)
  · exact .none

/-- In a table of keywords with arguments, both lines begin with the same one. -/
theorem rel_findSome? {α β : Type} {S : β → β → Prop} {table : List (Text × α)} (f : α → Text → β)
    (hR : Text.Blind R) (h : R s t) (htable : ∀ entry ∈ table, entry.1.any Text.isAsciiDigit = false)
    (hf : ∀ entry ∈ table, ∀ a b, R a b → S (f entry.2 a) (f entry.2 b)) :
    Option.Rel S (table.findSome? fun entry => (argument? entry.1 s).map (f entry.2))
      (table.findSome? fun entry => (argument? entry.1 t).map (f entry.2)) := by
  induction table with
  | nil => exact .none
  | cons entry rest ih =>
    obtain ⟨hentry, hrest⟩ := List.forall_mem_cons.1 htable
    have hargument := rel_argument? hR h hentry
    rw [List.findSome?_cons, List.findSome?_cons]
    generalize argument? entry.1 s = x, argument? entry.1 t = y at hargument
    cases hargument with
    | some hab => exact .some (hf entry List.mem_cons_self _ _ hab)
    | none => exact ih hrest fun other hmem => hf other (List.mem_cons_of_mem entry hmem)

/-- In a table of whole lines, both lines stand at the same place. -/
theorem find?_lower_eq {α : Type} {table : List (Text × α)} (hR : Text.Blind R) (h : R s t)
    (htable : ∀ entry ∈ table, entry.1.any Text.isAsciiDigit = false) :
    (table.find? fun (word, _) => word = s.lower) = table.find? fun (word, _) => word = t.lower := by
  refine List.find?_congr fun entry hmem => decide_eq_decide.2 ?_
  rw [eq_comm, (hR.sameShape h).lower.eq_iff (htable entry hmem), eq_comm]

end Keyword

namespace Command

theorem rel_ofWord? (hR : Text.Blind R) (h : R s t) :
    Option.Rel (Task.Alike R) (ofWord? s) (ofWord? t) := by
  have hsame : ofWord? s = ofWord? t := by
    rw [ofWord?, ofWord?, Keyword.find?_lower_eq hR h (by decide)]
  rw [hsame]
  cases hword : ofWord? t with
  | none => exact .none
  | some task =>
    obtain ⟨entry, hfind, rfl⟩ := Option.map_eq_some_iff.1 hword
    have hmem := List.mem_of_find?_eq_some hfind
    simp only [words, List.mem_cons, List.not_mem_nil, or_false] at hmem
    rcases hmem with rfl | rfl | rfl | rfl
    · exact .some .install
    · exact .some .back
    · exact .some .home
    · exact .some .recentApps

/-- No keyword has a digit in it. -/
theorem any_isAsciiDigit_of_mem_keywords :
    ∀ word ∈ keywords, word.any Text.isAsciiDigit = false := by decide

theorem rel_ofPackage? (hR : Text.Blind R) (h : R s t) :
    Option.Rel (Task.Alike R) (ofPackage? s) (ofPackage? t) := by
  have hmake : ∀ entry ∈ packageWords, ∀ p₁ p₂, R p₁ p₂ → (entry.2 p₁).Alike R (entry.2 p₂) := by
    simp only [packageWords, List.forall_mem_cons, List.not_mem_nil, false_implies, implies_true,
      and_true]
    exact ⟨fun _ _ => .uninstall, fun _ _ => .clearData, fun _ _ => .openApp⟩
  have htable : ∀ entry ∈ packageWords, entry.1.any Text.isAsciiDigit = false := by
    intro entry hmem
    apply any_isAsciiDigit_of_mem_keywords
    exact List.mem_append_left _ (List.mem_append_right _ (List.mem_map_of_mem hmem))
  exact Keyword.rel_findSome? (fun make => make) hR h htable hmake

/-- Related lines are alike as single commands. Whether a line that waits is ignored does not depend on
drawn digits. -/
theorem ofLine_alike (hR : Text.Blind R) (h : R s t) : Alike R (ofLine s) (ofLine t) := by
  have hword := rel_ofWord? hR h
  have hpackage := rel_ofPackage? hR h
  have hwait := Keyword.rel_argument? hR h (any_isAsciiDigit_of_mem_keywords waitWord (by decide))
  have hdescription :=
    Keyword.rel_argument? hR h (any_isAsciiDigit_of_mem_keywords descriptionWord (by decide))
  rw [ofLine, ofLine]
  generalize ofWord? s = x, ofWord? t = y at hword
  cases hword with
  | some htask => exact .task htask
  | none =>
    dsimp only
    generalize ofPackage? s = x, ofPackage? t = y at hpackage
    cases hpackage with
    | some htask => exact .task htask
    | none =>
      dsimp only
      generalize Keyword.argument? waitWord s = x, Keyword.argument? waitWord t = y at hwait
      cases hwait with
      | none =>
        dsimp only
        generalize Keyword.argument? descriptionWord s = x,
          Keyword.argument? descriptionWord t = y at hdescription
        cases hdescription with
        | some htext => exact .task (.description htext)
        | none => exact .other
      | @some argument₁ argument₂ hargument =>
        dsimp only
        have hread := (hR.sameShape hargument).isSome_readInt?
        cases h₁ : Text.readInt? argument₁ with
        | none =>
          rw [h₁, Option.isSome_none, eq_comm, Option.isSome_eq_false_iff, Option.isNone_iff_eq_none]
            at hread
          rw [hread]
          exact .ignored
        | some seconds₁ =>
          rw [h₁, Option.isSome_some, eq_comm, Option.isSome_iff_exists] at hread
          obtain ⟨seconds₂, h₂⟩ := hread
          rw [h₂]
          exact .task (.wait hargument h₁ h₂)

end Command

namespace Line

theorem rel_opening? (hR : Text.Blind R) (h : R s t) :
    Option.Rel (fun x y => x.1 = y.1 ∧ R x.2 y.2) (opening? s) (opening? t) := by
  have hopeners : ∀ entry ∈ openers, entry.1.any Text.isAsciiDigit = false := by decide
  exact Keyword.rel_findSome? Prod.mk hR h hopeners fun _ _ _ _ hname => ⟨rfl, hname⟩

/-- Both lines end a step or neither does. -/
theorem lower_eq_closer_iff (hR : Text.Blind R) (h : R s t) : s.lower = closer ↔ t.lower = closer :=
  (hR.sameShape h).lower.eq_iff (by decide)

/-- Related lines say the same. -/
theorem read_alike (hR : Text.Blind R) (h : R s t) : Alike R (read s) (read t) := by
  have hopening := rel_opening? hR h
  have hmemory : Option.Rel R (Keyword.argument? memoryWord s) (Keyword.argument? memoryWord t) :=
    Keyword.rel_argument? hR h (by decide)
  have hheader : header? s = header? t := by
    rw [header?, header?, Keyword.find?_lower_eq hR h (by decide)]
  rw [read, read, hheader]
  generalize opening? s = x, opening? t = y at hopening
  cases hopening with
  | @some x y hxy =>
    obtain ⟨kind, name₁⟩ := x
    obtain ⟨_, name₂⟩ := y
    obtain ⟨rfl, hname⟩ := hxy
    exact .opens kind hname
  | none =>
    dsimp only
    cases header? t with
    | some part => exact .header part
    | none =>
      dsimp only
      generalize Keyword.argument? memoryWord s = x, Keyword.argument? memoryWord t = y at hmemory
      cases hmemory with
      | some htext => exact .memory htext
      | none =>
        by_cases hc : t.lower = closer
        · rw [if_pos hc, if_pos ((lower_eq_closer_iff hR h).2 hc)]
          exact .closes
        · rw [if_neg hc, if_neg (mt (lower_eq_closer_iff hR h).1 hc)]
          exact .content

end Line

/-! ## What a line does -/

namespace Draft.Alike

variable {draft₁ draft₂ : Draft}

theorem add (hd : draft₁.Alike R draft₂) (h : R s t) : (draft₁.add s).Alike R (draft₂.add t) where
  tasks := by rw [tasks_add, tasks_add]; exact hd.tasks
  opened := by rw [opened_add, opened_add, hd.opened]
  part := by rw [part_add, part_add, hd.part]
  name ho := by
    rw [opened_add] at ho
    rw [name_add, name_add]
    exact hd.name ho
  assertions := by
    rw [assertions_add, assertions_add, hd.part]
    refine List.rel_append hd.assertions ?_
    split
    · exact .cons h .nil
    · exact .nil
  actions := by
    rw [actions_add, actions_add, hd.part]
    refine List.rel_append hd.actions ?_
    split
    · exact .cons h .nil
    · exact .nil

theorem close {kind : StepKind} (hd : draft₁.Alike R draft₂) (ho : draft₁.opened = some kind) :
    (draft₁.close kind maxRepeats).Alike R (draft₂.close kind maxRepeats) where
  tasks :=
    have hname := hd.name (by rw [ho]; rfl)
    List.rel_append hd.tasks
      (.cons (.screen false kind maxRepeats hname hd.assertions hd.actions) .nil)
  opened := rfl
  part := rfl
  name h := by cases h
  assertions := hd.assertions
  actions := hd.actions

theorem readStepLine (hR : Text.Blind R) (hd : draft₁.Alike R draft₂) (h : R s t) :
    ScriptError.Agree R (Draft.Alike R) (draft₁.readStepLine maxRepeats s raw)
      (draft₂.readStepLine maxRepeats t raw) := by
  have hline := Line.read_alike hR h
  rw [Draft.readStepLine, Draft.readStepLine]
  generalize Line.read s = x, Line.read t = y at hline
  cases hline with
  | opens kind hname =>
    -- the name counts only while the step is open, so nothing is asked of an earlier one
    dsimp only
    rw [← hd.opened]
    cases ho : draft₁.opened with
    | some _ => exact .malformed raw (.unfinishedStep (hd.name (by rw [ho]; rfl)))
    | none => exact ⟨hd.tasks, rfl, rfl, fun _ => hname, .nil, .nil⟩
  | header part => exact { hd with part := rfl }
  | memory _ => exact { hd with part := rfl }
  | closes =>
    dsimp only
    rw [← hd.opened]
    cases ho : draft₁.opened with
    | some kind => exact hd.close ho
    | none => exact .malformed raw .strayEnd
  | content => exact hd.add h

/-- **A line keeps what has been collected alike**, or it is at fault in both scripts. -/
theorem readLine (maxRepeats : Int) (raw : Text) (hR : Text.Blind R) (hd : draft₁.Alike R draft₂)
    (h : R s t) :
    ScriptError.Agree R (Draft.Alike R) (draft₁.readLine maxRepeats s raw)
      (draft₂.readLine maxRepeats t raw) := by
  have hcommand := Command.ofLine_alike hR h
  have hopen : draft₁.opened.isSome = draft₂.opened.isSome := by rw [hd.opened]
  rw [Draft.readLine, Draft.readLine, ← hopen]
  split
  · exact hd.readStepLine hR h
  · generalize Command.ofLine s = x, Command.ofLine t = y at hcommand
    cases hcommand with
    | task htask => exact { hd with tasks := List.rel_append hd.tasks (.cons htask .nil) }
    | ignored => exact hd
    | other => exact hd.readStepLine hR h

/-- Both scripts ignore the line or neither does. -/
theorem ignores_eq (hR : Text.Blind R) (hd : draft₁.Alike R draft₂) (h : R s t) :
    draft₁.ignores s = draft₂.ignores t := by
  have hcommand := Command.ofLine_alike hR h
  rw [ignores, ignores, hd.opened]
  generalize Command.ofLine s = x, Command.ofLine t = y at hcommand
  cases hcommand <;> rfl

end Draft.Alike

/-! ## The mark of the last step -/

namespace Task

theorem Alike.isScreen_eq {task₁ task₂ : Task} (h : task₁.Alike R task₂) :
    task₁.isScreen = task₂.isScreen := by
  cases h <;> rfl

theorem Alike.asLast {task₁ task₂ : Task} (h : task₁.Alike R task₂) :
    task₁.asLast.Alike R task₂.asLast := by
  cases h with
  | screen _ kind maxRepeats hname hassertions hactions =>
    exact .screen true kind maxRepeats hname hassertions hactions
  | wait h h₁ h₂ => exact .wait h h₁ h₂
  | _ => constructor <;> assumption

theorem any_isScreen_eq {tasks₁ tasks₂ : List Task} (h : List.Forall₂ (Alike R) tasks₁ tasks₂) :
    tasks₁.any isScreen = tasks₂.any isScreen := by
  induction h with
  | nil => rfl
  | cons htask _ ih => rw [List.any_cons, List.any_cons, htask.isScreen_eq, ih]

/-- The same step is the last one. -/
theorem forall₂_markLast {tasks₁ tasks₂ : List Task} (h : List.Forall₂ (Alike R) tasks₁ tasks₂) :
    List.Forall₂ (Alike R) (markLast tasks₁) (markLast tasks₂) := by
  induction h with
  | nil => exact .nil
  | cons htask hrest ih =>
    rw [markLast, markLast, any_isScreen_eq hrest]
    split
    · exact .cons htask ih
    · exact .cons htask.asLast hrest

end Task

end Reading

/-! ## Two compilations of one script -/

namespace Compilation

/-- Two compilations of one script, each of which began with some digits drawn already. -/
structure Alike (R : Text → Text → Prop) (start₁ start₂ : Nat) (compilation₁ compilation₂ : Compilation) :
    Prop where
  draft : compilation₁.draft.Alike R compilation₂.draft
  drawn : ∃ count, compilation₁.drawn = start₁ + count ∧ compilation₂.drawn = start₂ + count
  ignored : List.Forall₂ R compilation₁.ignored compilation₂.ignored
  error : Option.Rel (ScriptError.Alike R) compilation₁.error compilation₂.error

namespace Alike

section

variable {outlines : List Outline} {stream₁ stream₂ : DigitStream} {start₁ start₂ : Nat}

/-- **A script keeps what has been collected alike**, line by line. -/
theorem of_scan {maxRepeats : Int} {draft₁ draft₂ : Draft} {drawn : Nat} {lines : List Text}
    (hd : draft₁.Alike (Outline.Twins outlines (stream₁.behind start₁) (stream₂.behind start₂)) draft₂)
    (h : SignificantLine.outlines drawn lines ⊆ outlines) :
    Alike (Outline.Twins outlines (stream₁.behind start₁) (stream₂.behind start₂)) start₁ start₂
      (scan stream₁ maxRepeats draft₁ (start₁ + drawn) lines)
      (scan stream₂ maxRepeats draft₂ (start₂ + drawn) lines) := by
  have hblind := Outline.Twins.blind outlines (stream₁.behind start₁) (stream₂.behind start₂)
  induction lines generalizing draft₁ draft₂ drawn with
  | nil => exact ⟨hd, ⟨drawn, rfl, rfl⟩, .nil, .none⟩
  | cons raw rest ih =>
    rw [SignificantLine.outlines] at h
    rw [scan, scan]
    cases hraw : raw.trim.isSignificant with
    | false =>
      rw [hraw] at h
      exact ih hd h
    | true =>
      rw [hraw, if_pos rfl] at h
      rw [Placeholder.substitute_add, Placeholder.substitute_add]
      -- the outline is the same in both compilations, and so is what is wrong with it
      rcases ho : Placeholder.outline drawn raw.trim with ⟨_ | outline, total⟩
      · exact ⟨hd, ⟨total, rfl, rfl⟩, .nil, .some .oversizePlaceholder⟩
      · rw [ho] at h
        obtain ⟨hmem, hrest⟩ := List.cons_subset.1 h
        have htwins : Outline.Twins outlines (stream₁.behind start₁) (stream₂.behind start₂)
            (outline.fill (stream₁.behind start₁)) (outline.fill (stream₂.behind start₂)) := .of_mem hmem
        have hignores := hd.ignores_eq hblind htwins
        dsimp only [Option.map_some, Bool.not_true, Bool.false_eq_true, if_false]
        rw [hignores]
        rcases (hd.readLine maxRepeats raw hblind htwins).ok_or_error with
          ⟨next₁, next₂, h₁, h₂, hnext⟩ | ⟨error₁, error₂, h₁, h₂, herror⟩
        · rw [h₁, h₂]
          have hlater := ih hnext hrest
          refine { hlater with ignored := List.rel_append ?_ hlater.ignored }
          split
          · exact .cons htwins .nil
          · exact .nil
        · rw [h₁, h₂]
          exact ⟨hd, ⟨total, rfl, rfl⟩, .nil, .some herror⟩

end

variable {R : Text → Text → Prop} {start₁ start₂ : Nat} {compilation₁ compilation₂ : Compilation}

theorem finish (h : Alike R start₁ start₂ compilation₁ compilation₂) :
    Alike R start₁ start₂ compilation₁.finish compilation₂.finish := by
  have herror := h.error
  rw [Compilation.finish, Compilation.finish]
  generalize compilation₁.error = x, compilation₂.error = y at herror
  cases herror with
  | some _ => exact h
  | none =>
    -- the error is known by now, so `h` is taken apart for what is left of it
    obtain ⟨hdraft, hdrawn, hignored, -⟩ := h
    have hopen : compilation₁.draft.opened.isSome = compilation₂.draft.opened.isSome := by
      rw [hdraft.opened]
    dsimp only
    rw [← hopen]
    split
    · next ho =>
      exact ⟨hdraft, hdrawn, hignored, .some (.malformed [] (.unclosedStep (hdraft.name ho)))⟩
    · exact ⟨{ hdraft with tasks := Task.forall₂_markLast hdraft.tasks }, hdrawn, hignored, .none⟩

theorem result (h : Alike R start₁ start₂ compilation₁ compilation₂) :
    ScriptError.Agree R (List.Forall₂ (Task.Alike R)) compilation₁.result compilation₂.result := by
  have herror := h.error
  rw [Compilation.result, Compilation.result]
  generalize compilation₁.error = x, compilation₂.error = y at herror
  cases herror with
  | some h => exact h
  | none => exact h.draft.tasks

end Alike

/-- Two texts that come from the same piece of the same line of a script, in two compilations of it that
began behind some digits of their streams. -/
abbrev Twins (lines : List Text) (stream₁ stream₂ : DigitStream) (start₁ start₂ : Nat) :
    Text → Text → Prop :=
  Outline.Twins (SignificantLine.outlines 0 lines) (stream₁.behind start₁) (stream₂.behind start₂)

/-- Two compilations of one script are alike. -/
theorem alike_ofLines (stream₁ stream₂ : DigitStream) (start₁ start₂ : Nat) (maxRepeats : Int)
    (lines : List Text) :
    Alike (Twins lines stream₁ stream₂ start₁ start₂) start₁ start₂
      (ofLines stream₁ start₁ maxRepeats lines) (ofLines stream₂ start₂ maxRepeats lines) := by
  have hdraft : Draft.Alike (Twins lines stream₁ stream₂ start₁ start₂) {} {} :=
    ⟨.nil, rfl, rfl, nofun, .nil, .nil⟩
  exact (Alike.of_scan hdraft (List.Subset.refl _)).finish

/-- **Other digits change no structure.** If no placeholder of a script is too long, compiling it with
other random digits draws as many of them and ignores the same lines. Both compilations fail for the same
reason and at the same line, or both succeed, and then their tasks are of the same kinds, one by one, with
as many assertions and actions, the same last step, and texts that differ at most where drawn digits
stand. -/
theorem redraw_changes_digits_only (stream₁ stream₂ : DigitStream) (start₁ start₂ : Nat)
    (maxRepeats : Int) {lines : List Text}
    (h : ∀ raw ∈ lines, raw.trim.isSignificant = true → Placeholder.Fits raw.trim) :
    (∃ count, (ofLines stream₁ start₁ maxRepeats lines).drawn = start₁ + count ∧
      (ofLines stream₂ start₂ maxRepeats lines).drawn = start₂ + count) ∧
    List.Forall₂ (Twins lines stream₁ stream₂ start₁ start₂)
      (ofLines stream₁ start₁ maxRepeats lines).ignored
      (ofLines stream₂ start₂ maxRepeats lines).ignored ∧
    ((∃ tasks₁ tasks₂, (ofLines stream₁ start₁ maxRepeats lines).result = .ok tasks₁ ∧
        (ofLines stream₂ start₂ maxRepeats lines).result = .ok tasks₂ ∧
        List.Forall₂ (Task.Alike (Twins lines stream₁ stream₂ start₁ start₂)) tasks₁ tasks₂) ∨
      ∃ fault₁ fault₂ line,
        (ofLines stream₁ start₁ maxRepeats lines).result = .error (.malformed fault₁ line) ∧
        (ofLines stream₂ start₂ maxRepeats lines).result = .error (.malformed fault₂ line) ∧
        fault₁.Alike (Twins lines stream₁ stream₂ start₁ start₂) fault₂) := by
  have halike := alike_ofLines stream₁ stream₂ start₁ start₂ maxRepeats lines
  refine ⟨halike.drawn, halike.ignored, ?_⟩
  rcases halike.result.ok_or_error with
    ⟨tasks₁, tasks₂, h₁, h₂, htasks⟩ | ⟨error₁, error₂, h₁, h₂, herror⟩
  · exact .inl ⟨tasks₁, tasks₂, h₁, h₂, htasks⟩
  · obtain ⟨_, hs⟩ := SignificantLine.exists_all? stream₁ start₁ h
    obtain ⟨fault₁, line, rfl⟩ := malformed_of_result hs h₁
    cases herror with
    | malformed _ hfault => exact .inr ⟨fault₁, _, line, h₁, h₂, hfault⟩

/-- A script with digits in the name of a step, in an argument, in a time to wait, and next to what only
looks like a placeholder. -/
def guesses : List Text :=
  ["wait -1_%randomNumber2%".toList, "wait %randomNumber1%_".toList, "STEP %randomNumber1% ".toList,
    "Actions:".toList, "tap %randomNumber%randomNumber3%".toList, "end".toList]

/-- Sevens in place of the digits in their order. -/
theorem redraw_changes_digits_only_of_guesses :
    (∀ raw ∈ guesses, Text.isSignificant (Text.trim raw) = true → Placeholder.Fits (Text.trim raw)) ∧
    (∃ count, (ofLines (fun i => Fin.ofNat 10 i) 0 10 guesses).drawn = 0 + count ∧
      (ofLines (fun _ => 7) 2 10 guesses).drawn = 2 + count) ∧
    List.Forall₂ (Twins guesses (fun i => Fin.ofNat 10 i) (fun _ => 7) 0 2)
      (ofLines (fun i => Fin.ofNat 10 i) 0 10 guesses).ignored
      (ofLines (fun _ => 7) 2 10 guesses).ignored ∧
    ((∃ tasks₁ tasks₂, (ofLines (fun i => Fin.ofNat 10 i) 0 10 guesses).result = .ok tasks₁ ∧
        (ofLines (fun _ => 7) 2 10 guesses).result = .ok tasks₂ ∧
        List.Forall₂ (Task.Alike (Twins guesses (fun i => Fin.ofNat 10 i) (fun _ => 7) 0 2))
          tasks₁ tasks₂) ∨
      ∃ fault₁ fault₂ line,
        (ofLines (fun i => Fin.ofNat 10 i) 0 10 guesses).result = .error (.malformed fault₁ line) ∧
        (ofLines (fun _ => 7) 2 10 guesses).result = .error (.malformed fault₂ line) ∧
        fault₁.Alike (Twins guesses (fun i => Fin.ofNat 10 i) (fun _ => 7) 0 2) fault₂) := by
  have h : ∀ raw ∈ guesses,
      Text.isSignificant (Text.trim raw) = true → Placeholder.Fits (Text.trim raw) := by
    decide +kernel
  exact ⟨h, redraw_changes_digits_only (fun i => Fin.ofNat 10 i) (fun _ => 7) 0 2 10 h⟩

end Compilation

end ScreenScript
