import ScreenScript.Web.HostName.Mark

/-!
# Composed texts

A letter and a mark may be one character or two. Of the texts that differ in nothing else, one is
*composed*: its marks stand in the order of their classes, and whatever can be one character is one
(Unicode 14.0, the characters of names alone).

* `decompose`, `compose` — the two directions
* `isComposed` — the texts that both leave as they are
-/

namespace ScreenScript.HostName

/-- The characters that stand for a letter and a mark, each before the two. -/
def composites : List (Nat × Nat × Nat) := [
  (0x00e0, 0x0061, 0x0300), (0x00e1, 0x0061, 0x0301), (0x00e2, 0x0061, 0x0302),
  (0x00e3, 0x0061, 0x0303), (0x00e4, 0x0061, 0x0308), (0x00e5, 0x0061, 0x030a),
  (0x00e7, 0x0063, 0x0327), (0x00e8, 0x0065, 0x0300), (0x00e9, 0x0065, 0x0301),
  (0x00ea, 0x0065, 0x0302), (0x00eb, 0x0065, 0x0308), (0x00ec, 0x0069, 0x0300),
  (0x00ed, 0x0069, 0x0301), (0x00ee, 0x0069, 0x0302), (0x00ef, 0x0069, 0x0308),
  (0x00f1, 0x006e, 0x0303), (0x00f2, 0x006f, 0x0300), (0x00f3, 0x006f, 0x0301),
  (0x00f4, 0x006f, 0x0302), (0x00f5, 0x006f, 0x0303), (0x00f6, 0x006f, 0x0308),
  (0x00f9, 0x0075, 0x0300), (0x00fa, 0x0075, 0x0301), (0x00fb, 0x0075, 0x0302),
  (0x00fc, 0x0075, 0x0308), (0x00fd, 0x0079, 0x0301), (0x00ff, 0x0079, 0x0308),
  (0x0101, 0x0061, 0x0304), (0x0103, 0x0061, 0x0306), (0x0105, 0x0061, 0x0328),
  (0x0107, 0x0063, 0x0301), (0x0109, 0x0063, 0x0302), (0x010b, 0x0063, 0x0307),
  (0x010d, 0x0063, 0x030c), (0x010f, 0x0064, 0x030c), (0x0113, 0x0065, 0x0304),
  (0x0115, 0x0065, 0x0306), (0x0117, 0x0065, 0x0307), (0x0119, 0x0065, 0x0328),
  (0x011b, 0x0065, 0x030c), (0x011d, 0x0067, 0x0302), (0x011f, 0x0067, 0x0306),
  (0x0121, 0x0067, 0x0307), (0x0123, 0x0067, 0x0327), (0x0125, 0x0068, 0x0302),
  (0x0129, 0x0069, 0x0303), (0x012b, 0x0069, 0x0304), (0x012d, 0x0069, 0x0306),
  (0x012f, 0x0069, 0x0328), (0x0135, 0x006a, 0x0302), (0x0137, 0x006b, 0x0327),
  (0x013a, 0x006c, 0x0301), (0x013c, 0x006c, 0x0327), (0x013e, 0x006c, 0x030c),
  (0x0144, 0x006e, 0x0301), (0x0146, 0x006e, 0x0327), (0x0148, 0x006e, 0x030c),
  (0x014d, 0x006f, 0x0304), (0x014f, 0x006f, 0x0306), (0x0151, 0x006f, 0x030b),
  (0x0155, 0x0072, 0x0301), (0x0157, 0x0072, 0x0327), (0x0159, 0x0072, 0x030c),
  (0x015b, 0x0073, 0x0301), (0x015d, 0x0073, 0x0302), (0x015f, 0x0073, 0x0327),
  (0x0161, 0x0073, 0x030c), (0x0163, 0x0074, 0x0327), (0x0165, 0x0074, 0x030c),
  (0x0169, 0x0075, 0x0303), (0x016b, 0x0075, 0x0304), (0x016d, 0x0075, 0x0306),
  (0x016f, 0x0075, 0x030a), (0x0171, 0x0075, 0x030b), (0x0173, 0x0075, 0x0328),
  (0x0175, 0x0077, 0x0302), (0x0177, 0x0079, 0x0302), (0x017a, 0x007a, 0x0301),
  (0x017c, 0x007a, 0x0307), (0x017e, 0x007a, 0x030c), (0x01a1, 0x006f, 0x031b),
  (0x01b0, 0x0075, 0x031b), (0x01ce, 0x0061, 0x030c), (0x01d0, 0x0069, 0x030c),
  (0x01d2, 0x006f, 0x030c), (0x01d4, 0x0075, 0x030c), (0x01d6, 0x00fc, 0x0304),
  (0x01d8, 0x00fc, 0x0301), (0x01da, 0x00fc, 0x030c), (0x01dc, 0x00fc, 0x0300),
  (0x01df, 0x00e4, 0x0304), (0x01e1, 0x0227, 0x0304), (0x01e3, 0x00e6, 0x0304),
  (0x01e7, 0x0067, 0x030c), (0x01e9, 0x006b, 0x030c), (0x01eb, 0x006f, 0x0328),
  (0x01ed, 0x01eb, 0x0304), (0x01ef, 0x0292, 0x030c), (0x01f0, 0x006a, 0x030c),
  (0x01f5, 0x0067, 0x0301), (0x01f9, 0x006e, 0x0300), (0x01fb, 0x00e5, 0x0301),
  (0x01fd, 0x00e6, 0x0301), (0x01ff, 0x00f8, 0x0301), (0x0201, 0x0061, 0x030f),
  (0x0203, 0x0061, 0x0311), (0x0205, 0x0065, 0x030f), (0x0207, 0x0065, 0x0311),
  (0x0209, 0x0069, 0x030f), (0x020b, 0x0069, 0x0311), (0x020d, 0x006f, 0x030f),
  (0x020f, 0x006f, 0x0311), (0x0211, 0x0072, 0x030f), (0x0213, 0x0072, 0x0311),
  (0x0215, 0x0075, 0x030f), (0x0217, 0x0075, 0x0311), (0x0219, 0x0073, 0x0326),
  (0x021b, 0x0074, 0x0326), (0x021f, 0x0068, 0x030c), (0x0227, 0x0061, 0x0307),
  (0x0229, 0x0065, 0x0327), (0x022b, 0x00f6, 0x0304), (0x022d, 0x00f5, 0x0304),
  (0x022f, 0x006f, 0x0307), (0x0231, 0x022f, 0x0304), (0x0233, 0x0079, 0x0304),
  (0x0390, 0x03ca, 0x0301), (0x03ac, 0x03b1, 0x0301), (0x03ad, 0x03b5, 0x0301),
  (0x03ae, 0x03b7, 0x0301), (0x03af, 0x03b9, 0x0301), (0x03b0, 0x03cb, 0x0301),
  (0x03ca, 0x03b9, 0x0308), (0x03cb, 0x03c5, 0x0308), (0x03cc, 0x03bf, 0x0301),
  (0x03cd, 0x03c5, 0x0301), (0x03ce, 0x03c9, 0x0301), (0x0439, 0x0438, 0x0306),
  (0x0450, 0x0435, 0x0300), (0x0451, 0x0435, 0x0308), (0x0453, 0x0433, 0x0301),
  (0x0457, 0x0456, 0x0308), (0x045c, 0x043a, 0x0301), (0x045d, 0x0438, 0x0300),
  (0x045e, 0x0443, 0x0306), (0x0477, 0x0475, 0x030f), (0x04c2, 0x0436, 0x0306),
  (0x04d1, 0x0430, 0x0306), (0x04d3, 0x0430, 0x0308), (0x04d7, 0x0435, 0x0306),
  (0x04db, 0x04d9, 0x0308), (0x04dd, 0x0436, 0x0308), (0x04df, 0x0437, 0x0308),
  (0x04e3, 0x0438, 0x0304), (0x04e5, 0x0438, 0x0308), (0x04e7, 0x043e, 0x0308),
  (0x04eb, 0x04e9, 0x0308), (0x04ed, 0x044d, 0x0308), (0x04ef, 0x0443, 0x0304),
  (0x04f1, 0x0443, 0x0308), (0x04f3, 0x0443, 0x030b), (0x04f5, 0x0447, 0x0308),
  (0x04f9, 0x044b, 0x0308), (0x0622, 0x0627, 0x0653), (0x0623, 0x0627, 0x0654),
  (0x0624, 0x0648, 0x0654), (0x0625, 0x0627, 0x0655), (0x0626, 0x064a, 0x0654),
  (0x06c0, 0x06d5, 0x0654), (0x06c2, 0x06c1, 0x0654), (0x06d3, 0x06d2, 0x0654),
  (0x0929, 0x0928, 0x093c), (0x0931, 0x0930, 0x093c), (0x0934, 0x0933, 0x093c),
  (0x09cb, 0x09c7, 0x09be), (0x09cc, 0x09c7, 0x09d7), (0x0b48, 0x0b47, 0x0b56),
  (0x0b4b, 0x0b47, 0x0b3e), (0x0b4c, 0x0b47, 0x0b57), (0x0b94, 0x0b92, 0x0bd7),
  (0x0bca, 0x0bc6, 0x0bbe), (0x0bcb, 0x0bc7, 0x0bbe), (0x0bcc, 0x0bc6, 0x0bd7),
  (0x0c48, 0x0c46, 0x0c56), (0x0cc0, 0x0cbf, 0x0cd5), (0x0cc7, 0x0cc6, 0x0cd5),
  (0x0cc8, 0x0cc6, 0x0cd6), (0x0cca, 0x0cc6, 0x0cc2), (0x0ccb, 0x0cca, 0x0cd5),
  (0x0d4a, 0x0d46, 0x0d3e), (0x0d4b, 0x0d47, 0x0d3e), (0x0d4c, 0x0d46, 0x0d57),
  (0x0dda, 0x0dd9, 0x0dca), (0x0ddc, 0x0dd9, 0x0dcf), (0x0ddd, 0x0ddc, 0x0dca),
  (0x0dde, 0x0dd9, 0x0ddf), (0x1026, 0x1025, 0x102e), (0x1b06, 0x1b05, 0x1b35),
  (0x1b08, 0x1b07, 0x1b35), (0x1b0a, 0x1b09, 0x1b35), (0x1b0c, 0x1b0b, 0x1b35),
  (0x1b0e, 0x1b0d, 0x1b35), (0x1b12, 0x1b11, 0x1b35), (0x1b3b, 0x1b3a, 0x1b35),
  (0x1b3d, 0x1b3c, 0x1b35), (0x1b40, 0x1b3e, 0x1b35), (0x1b41, 0x1b3f, 0x1b35),
  (0x1b43, 0x1b42, 0x1b35), (0x1e01, 0x0061, 0x0325), (0x1e03, 0x0062, 0x0307),
  (0x1e05, 0x0062, 0x0323), (0x1e07, 0x0062, 0x0331), (0x1e09, 0x00e7, 0x0301),
  (0x1e0b, 0x0064, 0x0307), (0x1e0d, 0x0064, 0x0323), (0x1e0f, 0x0064, 0x0331),
  (0x1e11, 0x0064, 0x0327), (0x1e13, 0x0064, 0x032d), (0x1e15, 0x0113, 0x0300),
  (0x1e17, 0x0113, 0x0301), (0x1e19, 0x0065, 0x032d), (0x1e1b, 0x0065, 0x0330),
  (0x1e1d, 0x0229, 0x0306), (0x1e1f, 0x0066, 0x0307), (0x1e21, 0x0067, 0x0304),
  (0x1e23, 0x0068, 0x0307), (0x1e25, 0x0068, 0x0323), (0x1e27, 0x0068, 0x0308),
  (0x1e29, 0x0068, 0x0327), (0x1e2b, 0x0068, 0x032e), (0x1e2d, 0x0069, 0x0330),
  (0x1e2f, 0x00ef, 0x0301), (0x1e31, 0x006b, 0x0301), (0x1e33, 0x006b, 0x0323),
  (0x1e35, 0x006b, 0x0331), (0x1e37, 0x006c, 0x0323), (0x1e39, 0x1e37, 0x0304),
  (0x1e3b, 0x006c, 0x0331), (0x1e3d, 0x006c, 0x032d), (0x1e3f, 0x006d, 0x0301),
  (0x1e41, 0x006d, 0x0307), (0x1e43, 0x006d, 0x0323), (0x1e45, 0x006e, 0x0307),
  (0x1e47, 0x006e, 0x0323), (0x1e49, 0x006e, 0x0331), (0x1e4b, 0x006e, 0x032d),
  (0x1e4d, 0x00f5, 0x0301), (0x1e4f, 0x00f5, 0x0308), (0x1e51, 0x014d, 0x0300),
  (0x1e53, 0x014d, 0x0301), (0x1e55, 0x0070, 0x0301), (0x1e57, 0x0070, 0x0307),
  (0x1e59, 0x0072, 0x0307), (0x1e5b, 0x0072, 0x0323), (0x1e5d, 0x1e5b, 0x0304),
  (0x1e5f, 0x0072, 0x0331), (0x1e61, 0x0073, 0x0307), (0x1e63, 0x0073, 0x0323),
  (0x1e65, 0x015b, 0x0307), (0x1e67, 0x0161, 0x0307), (0x1e69, 0x1e63, 0x0307),
  (0x1e6b, 0x0074, 0x0307), (0x1e6d, 0x0074, 0x0323), (0x1e6f, 0x0074, 0x0331),
  (0x1e71, 0x0074, 0x032d), (0x1e73, 0x0075, 0x0324), (0x1e75, 0x0075, 0x0330),
  (0x1e77, 0x0075, 0x032d), (0x1e79, 0x0169, 0x0301), (0x1e7b, 0x016b, 0x0308),
  (0x1e7d, 0x0076, 0x0303), (0x1e7f, 0x0076, 0x0323), (0x1e81, 0x0077, 0x0300),
  (0x1e83, 0x0077, 0x0301), (0x1e85, 0x0077, 0x0308), (0x1e87, 0x0077, 0x0307),
  (0x1e89, 0x0077, 0x0323), (0x1e8b, 0x0078, 0x0307), (0x1e8d, 0x0078, 0x0308),
  (0x1e8f, 0x0079, 0x0307), (0x1e91, 0x007a, 0x0302), (0x1e93, 0x007a, 0x0323),
  (0x1e95, 0x007a, 0x0331), (0x1e96, 0x0068, 0x0331), (0x1e97, 0x0074, 0x0308),
  (0x1e98, 0x0077, 0x030a), (0x1e99, 0x0079, 0x030a), (0x1ea1, 0x0061, 0x0323),
  (0x1ea3, 0x0061, 0x0309), (0x1ea5, 0x00e2, 0x0301), (0x1ea7, 0x00e2, 0x0300),
  (0x1ea9, 0x00e2, 0x0309), (0x1eab, 0x00e2, 0x0303), (0x1ead, 0x1ea1, 0x0302),
  (0x1eaf, 0x0103, 0x0301), (0x1eb1, 0x0103, 0x0300), (0x1eb3, 0x0103, 0x0309),
  (0x1eb5, 0x0103, 0x0303), (0x1eb7, 0x1ea1, 0x0306), (0x1eb9, 0x0065, 0x0323),
  (0x1ebb, 0x0065, 0x0309), (0x1ebd, 0x0065, 0x0303), (0x1ebf, 0x00ea, 0x0301),
  (0x1ec1, 0x00ea, 0x0300), (0x1ec3, 0x00ea, 0x0309), (0x1ec5, 0x00ea, 0x0303),
  (0x1ec7, 0x1eb9, 0x0302), (0x1ec9, 0x0069, 0x0309), (0x1ecb, 0x0069, 0x0323),
  (0x1ecd, 0x006f, 0x0323), (0x1ecf, 0x006f, 0x0309), (0x1ed1, 0x00f4, 0x0301),
  (0x1ed3, 0x00f4, 0x0300), (0x1ed5, 0x00f4, 0x0309), (0x1ed7, 0x00f4, 0x0303),
  (0x1ed9, 0x1ecd, 0x0302), (0x1edb, 0x01a1, 0x0301), (0x1edd, 0x01a1, 0x0300),
  (0x1edf, 0x01a1, 0x0309), (0x1ee1, 0x01a1, 0x0303), (0x1ee3, 0x01a1, 0x0323),
  (0x1ee5, 0x0075, 0x0323), (0x1ee7, 0x0075, 0x0309), (0x1ee9, 0x01b0, 0x0301),
  (0x1eeb, 0x01b0, 0x0300), (0x1eed, 0x01b0, 0x0309), (0x1eef, 0x01b0, 0x0303),
  (0x1ef1, 0x01b0, 0x0323), (0x1ef3, 0x0079, 0x0300), (0x1ef5, 0x0079, 0x0323),
  (0x1ef7, 0x0079, 0x0309), (0x1ef9, 0x0079, 0x0303), (0x1f00, 0x03b1, 0x0313),
  (0x1f01, 0x03b1, 0x0314), (0x1f02, 0x1f00, 0x0300), (0x1f03, 0x1f01, 0x0300),
  (0x1f04, 0x1f00, 0x0301), (0x1f05, 0x1f01, 0x0301), (0x1f06, 0x1f00, 0x0342),
  (0x1f07, 0x1f01, 0x0342), (0x1f10, 0x03b5, 0x0313), (0x1f11, 0x03b5, 0x0314),
  (0x1f12, 0x1f10, 0x0300), (0x1f13, 0x1f11, 0x0300), (0x1f14, 0x1f10, 0x0301),
  (0x1f15, 0x1f11, 0x0301), (0x1f20, 0x03b7, 0x0313), (0x1f21, 0x03b7, 0x0314),
  (0x1f22, 0x1f20, 0x0300), (0x1f23, 0x1f21, 0x0300), (0x1f24, 0x1f20, 0x0301),
  (0x1f25, 0x1f21, 0x0301), (0x1f26, 0x1f20, 0x0342), (0x1f27, 0x1f21, 0x0342),
  (0x1f30, 0x03b9, 0x0313), (0x1f31, 0x03b9, 0x0314), (0x1f32, 0x1f30, 0x0300),
  (0x1f33, 0x1f31, 0x0300), (0x1f34, 0x1f30, 0x0301), (0x1f35, 0x1f31, 0x0301),
  (0x1f36, 0x1f30, 0x0342), (0x1f37, 0x1f31, 0x0342), (0x1f40, 0x03bf, 0x0313),
  (0x1f41, 0x03bf, 0x0314), (0x1f42, 0x1f40, 0x0300), (0x1f43, 0x1f41, 0x0300),
  (0x1f44, 0x1f40, 0x0301), (0x1f45, 0x1f41, 0x0301), (0x1f50, 0x03c5, 0x0313),
  (0x1f51, 0x03c5, 0x0314), (0x1f52, 0x1f50, 0x0300), (0x1f53, 0x1f51, 0x0300),
  (0x1f54, 0x1f50, 0x0301), (0x1f55, 0x1f51, 0x0301), (0x1f56, 0x1f50, 0x0342),
  (0x1f57, 0x1f51, 0x0342), (0x1f60, 0x03c9, 0x0313), (0x1f61, 0x03c9, 0x0314),
  (0x1f62, 0x1f60, 0x0300), (0x1f63, 0x1f61, 0x0300), (0x1f64, 0x1f60, 0x0301),
  (0x1f65, 0x1f61, 0x0301), (0x1f66, 0x1f60, 0x0342), (0x1f67, 0x1f61, 0x0342),
  (0x1f70, 0x03b1, 0x0300), (0x1f72, 0x03b5, 0x0300), (0x1f74, 0x03b7, 0x0300),
  (0x1f76, 0x03b9, 0x0300), (0x1f78, 0x03bf, 0x0300), (0x1f7a, 0x03c5, 0x0300),
  (0x1f7c, 0x03c9, 0x0300), (0x1fb0, 0x03b1, 0x0306), (0x1fb1, 0x03b1, 0x0304),
  (0x1fb6, 0x03b1, 0x0342), (0x1fc6, 0x03b7, 0x0342), (0x1fd0, 0x03b9, 0x0306),
  (0x1fd1, 0x03b9, 0x0304), (0x1fd2, 0x03ca, 0x0300), (0x1fd6, 0x03b9, 0x0342),
  (0x1fd7, 0x03ca, 0x0342), (0x1fe0, 0x03c5, 0x0306), (0x1fe1, 0x03c5, 0x0304),
  (0x1fe2, 0x03cb, 0x0300), (0x1fe4, 0x03c1, 0x0313), (0x1fe5, 0x03c1, 0x0314),
  (0x1fe6, 0x03c5, 0x0342), (0x1fe7, 0x03cb, 0x0342), (0x1ff6, 0x03c9, 0x0342),
  (0x304c, 0x304b, 0x3099), (0x304e, 0x304d, 0x3099), (0x3050, 0x304f, 0x3099),
  (0x3052, 0x3051, 0x3099), (0x3054, 0x3053, 0x3099), (0x3056, 0x3055, 0x3099),
  (0x3058, 0x3057, 0x3099), (0x305a, 0x3059, 0x3099), (0x305c, 0x305b, 0x3099),
  (0x305e, 0x305d, 0x3099), (0x3060, 0x305f, 0x3099), (0x3062, 0x3061, 0x3099),
  (0x3065, 0x3064, 0x3099), (0x3067, 0x3066, 0x3099), (0x3069, 0x3068, 0x3099),
  (0x3070, 0x306f, 0x3099), (0x3071, 0x306f, 0x309a), (0x3073, 0x3072, 0x3099),
  (0x3074, 0x3072, 0x309a), (0x3076, 0x3075, 0x3099), (0x3077, 0x3075, 0x309a),
  (0x3079, 0x3078, 0x3099), (0x307a, 0x3078, 0x309a), (0x307c, 0x307b, 0x3099),
  (0x307d, 0x307b, 0x309a), (0x3094, 0x3046, 0x3099), (0x309e, 0x309d, 0x3099),
  (0x30ac, 0x30ab, 0x3099), (0x30ae, 0x30ad, 0x3099), (0x30b0, 0x30af, 0x3099),
  (0x30b2, 0x30b1, 0x3099), (0x30b4, 0x30b3, 0x3099), (0x30b6, 0x30b5, 0x3099),
  (0x30b8, 0x30b7, 0x3099), (0x30ba, 0x30b9, 0x3099), (0x30bc, 0x30bb, 0x3099),
  (0x30be, 0x30bd, 0x3099), (0x30c0, 0x30bf, 0x3099), (0x30c2, 0x30c1, 0x3099),
  (0x30c5, 0x30c4, 0x3099), (0x30c7, 0x30c6, 0x3099), (0x30c9, 0x30c8, 0x3099),
  (0x30d0, 0x30cf, 0x3099), (0x30d1, 0x30cf, 0x309a), (0x30d3, 0x30d2, 0x3099),
  (0x30d4, 0x30d2, 0x309a), (0x30d6, 0x30d5, 0x3099), (0x30d7, 0x30d5, 0x309a),
  (0x30d9, 0x30d8, 0x3099), (0x30da, 0x30d8, 0x309a), (0x30dc, 0x30db, 0x3099),
  (0x30dd, 0x30db, 0x309a), (0x30f4, 0x30a6, 0x3099), (0x30f7, 0x30ef, 0x3099),
  (0x30f8, 0x30f0, 0x3099), (0x30f9, 0x30f1, 0x3099), (0x30fa, 0x30f2, 0x3099),
  (0x30fe, 0x30fd, 0x3099), (0x1109a, 0x11099, 0x110ba), (0x1109c, 0x1109b, 0x110ba),
  (0x110ab, 0x110a5, 0x110ba), (0x1112e, 0x11131, 0x11127), (0x1112f, 0x11132, 0x11127),
  (0x1134b, 0x11347, 0x1133e), (0x1134c, 0x11347, 0x11357), (0x114bb, 0x114b9, 0x114ba),
  (0x114bc, 0x114b9, 0x114b0), (0x114be, 0x114b9, 0x114bd), (0x115ba, 0x115b8, 0x115af),
  (0x115bb, 0x115b9, 0x115af), (0x11938, 0x11935, 0x11930)
]

/-- The character that a letter and a mark are together. -/
def composite? (letter mark : Char) : Option Char :=
  (composites.find? fun (_, a, b) => a = letter.toNat && b = mark.toNat).map fun (c, _, _) =>
    Char.ofNat c

/-- How often a character can be taken apart, at most. -/
def depth : Nat := 2

/-- The characters that one character stands for, taken apart `n` times. -/
def decomposeChar : Nat → Char → Text
  | 0, c => [c]
  | n + 1, c =>
    match composites.find? fun (whole, _, _) => whole = c.toNat with
    | some (_, a, b) => decomposeChar n (Char.ofNat a) ++ [Char.ofNat b]
    | none => [c]

/-- A mark in front of a text whose marks are in order, moved behind the marks of lower classes. -/
def insertMark (c : Char) : Text → Text
  | [] => [c]
  | next :: rest =>
    if 0 < combiningClass next && combiningClass next < combiningClass c then
      next :: insertMark c rest
    else
      c :: next :: rest

/-- The text with its marks in the order of their classes. -/
def sortMarks (t : Text) : Text := t.foldr insertMark []

/-- The text taken apart. -/
def decompose (t : Text) : Text := sortMarks (t.flatMap (decomposeChar depth))

/-- The text put together behind a letter and the marks that have stayed behind it, the last one
first. A mark does not reach the letter across one of its own class or a higher one. -/
def composeBehind (letter : Char) (marks : Text) : Text → Text
  | [] => letter :: marks.reverse
  | c :: rest =>
    let whole? :=
      match marks with
      | [] => composite? letter c
      | mark :: _ =>
        if combiningClass mark < combiningClass c then composite? letter c else none
    match whole? with
    | some whole => composeBehind whole marks rest
    | none =>
      if combiningClass c = 0 then letter :: marks.reverse ++ composeBehind c [] rest
      else composeBehind letter (c :: marks) rest

/-- The text put together. -/
def compose : Text → Text
  | [] => []
  | c :: rest => composeBehind c [] rest

/-- Whether a text is composed. -/
def isComposed (t : Text) : Bool := compose (decompose t) = t

end ScreenScript.HostName
