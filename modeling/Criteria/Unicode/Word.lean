/-
# Criteria.Unicode.Word — the characters that words are made of

A word character is alphabetic, a decimal digit, a mark, a connector such as the low line, or a join
control. The marks that are alphabetic already are left out of `markRanges`.
-/
import Criteria.Unicode.Alphabetic
import Criteria.Unicode.Numeral

namespace Criteria.Unicode

open Criteria.Text

/-- The ranges of the marks that are not alphabetic. -/
def markRanges : List (Nat × Nat) :=
  [(0x0300, 0x0344), (0x0346, 0x0362), (0x0483, 0x0489), (0x0591, 0x05af), (0x0658, 0x0658),
   (0x06df, 0x06e0), (0x06ea, 0x06ec), (0x0740, 0x074a), (0x07eb, 0x07f3), (0x07fd, 0x07fd),
   (0x0818, 0x0819), (0x082d, 0x082d), (0x0859, 0x085b), (0x0898, 0x089f), (0x08ca, 0x08d3),
   (0x08e0, 0x08e1), (0x08ea, 0x08ef), (0x093c, 0x093c), (0x094d, 0x094d), (0x0951, 0x0954),
   (0x09bc, 0x09bc), (0x09cd, 0x09cd), (0x09fe, 0x09fe), (0x0a3c, 0x0a3c), (0x0a4d, 0x0a4d),
   (0x0abc, 0x0abc), (0x0acd, 0x0acd), (0x0afd, 0x0aff), (0x0b3c, 0x0b3c), (0x0b4d, 0x0b4d),
   (0x0b55, 0x0b55), (0x0bcd, 0x0bcd), (0x0c3c, 0x0c3c), (0x0c4d, 0x0c4d), (0x0cbc, 0x0cbc),
   (0x0ccd, 0x0ccd), (0x0d3b, 0x0d3c), (0x0d4d, 0x0d4d), (0x0dca, 0x0dca), (0x0e47, 0x0e4c),
   (0x0e4e, 0x0e4e), (0x0eba, 0x0eba), (0x0ec8, 0x0ecc), (0x0ece, 0x0ece), (0x0f18, 0x0f19),
   (0x0f35, 0x0f35), (0x0f37, 0x0f37), (0x0f39, 0x0f39), (0x0f3e, 0x0f3f), (0x0f84, 0x0f84),
   (0x0f86, 0x0f87), (0x0fc6, 0x0fc6), (0x1037, 0x1037), (0x1039, 0x103a), (0x135d, 0x135f),
   (0x1714, 0x1715), (0x1734, 0x1734), (0x17b4, 0x17b5), (0x17c9, 0x17d3), (0x17dd, 0x17dd),
   (0x180b, 0x180d), (0x180f, 0x180f), (0x1939, 0x193b), (0x1a60, 0x1a60), (0x1a75, 0x1a7c),
   (0x1a7f, 0x1a7f), (0x1ab0, 0x1abe), (0x1ac1, 0x1acb), (0x1acf, 0x1add), (0x1ae0, 0x1aeb),
   (0x1b34, 0x1b34), (0x1b44, 0x1b44), (0x1b6b, 0x1b73), (0x1baa, 0x1bab), (0x1be6, 0x1be6),
   (0x1bf2, 0x1bf3), (0x1c37, 0x1c37), (0x1cd0, 0x1cd2), (0x1cd4, 0x1ce8), (0x1ced, 0x1ced),
   (0x1cf4, 0x1cf4), (0x1cf7, 0x1cf9), (0x1dc0, 0x1dd2), (0x1df5, 0x1dff), (0x20d0, 0x20f0),
   (0x2cef, 0x2cf1), (0x2d7f, 0x2d7f), (0x302a, 0x302f), (0x3099, 0x309a), (0xa66f, 0xa672),
   (0xa67c, 0xa67d), (0xa6f0, 0xa6f1), (0xa806, 0xa806), (0xa82c, 0xa82c), (0xa8c4, 0xa8c4),
   (0xa8e0, 0xa8f1), (0xa92b, 0xa92d), (0xa953, 0xa953), (0xa9b3, 0xa9b3), (0xa9c0, 0xa9c0),
   (0xaabf, 0xaabf), (0xaac1, 0xaac1), (0xaaf6, 0xaaf6), (0xabec, 0xabed), (0xfe00, 0xfe0f),
   (0xfe20, 0xfe2f), (0x101fd, 0x101fd), (0x102e0, 0x102e0), (0x10a38, 0x10a3a), (0x10a3f, 0x10a3f),
   (0x10ae5, 0x10ae6), (0x10d6a, 0x10d6d), (0x10efd, 0x10eff), (0x10f46, 0x10f50),
   (0x10f82, 0x10f85), (0x11046, 0x11046), (0x11070, 0x11070), (0x1107f, 0x1107f),
   (0x110b9, 0x110ba), (0x11133, 0x11134), (0x11173, 0x11173), (0x111c0, 0x111c0),
   (0x111c9, 0x111cc), (0x11235, 0x11236), (0x112e9, 0x112ea), (0x1133b, 0x1133c),
   (0x1134d, 0x1134d), (0x11366, 0x1136c), (0x11370, 0x11374), (0x113ce, 0x113d0),
   (0x113d2, 0x113d2), (0x113e1, 0x113e2), (0x11442, 0x11442), (0x11446, 0x11446),
   (0x1145e, 0x1145e), (0x114c2, 0x114c3), (0x115bf, 0x115c0), (0x1163f, 0x1163f),
   (0x116b6, 0x116b7), (0x1172b, 0x1172b), (0x11839, 0x1183a), (0x1193d, 0x1193e),
   (0x11943, 0x11943), (0x119e0, 0x119e0), (0x11a33, 0x11a34), (0x11a47, 0x11a47),
   (0x11a98, 0x11a99), (0x11c3f, 0x11c3f), (0x11d42, 0x11d42), (0x11d44, 0x11d45),
   (0x11d97, 0x11d97), (0x11f41, 0x11f42), (0x11f5a, 0x11f5a), (0x13440, 0x13440),
   (0x13447, 0x13455), (0x1612f, 0x1612f), (0x16af0, 0x16af4), (0x16b30, 0x16b36),
   (0x16fe4, 0x16fe4), (0x1bc9d, 0x1bc9d), (0x1cf00, 0x1cf2d), (0x1cf30, 0x1cf46),
   (0x1d165, 0x1d169), (0x1d16d, 0x1d172), (0x1d17b, 0x1d182), (0x1d185, 0x1d18b),
   (0x1d1aa, 0x1d1ad), (0x1d242, 0x1d244), (0x1da00, 0x1da36), (0x1da3b, 0x1da6c),
   (0x1da75, 0x1da75), (0x1da84, 0x1da84), (0x1da9b, 0x1da9f), (0x1daa1, 0x1daaf),
   (0x1e130, 0x1e136), (0x1e2ae, 0x1e2ae), (0x1e2ec, 0x1e2ef), (0x1e4ec, 0x1e4ef),
   (0x1e5ee, 0x1e5ef), (0x1e8d0, 0x1e8d6), (0x1e944, 0x1e946), (0x1e948, 0x1e94a),
   (0xe0100, 0xe01ef)]

/-- The ranges of the connectors, the category Pc. -/
def connectorRanges : List (Nat × Nat) :=
  [(0x005f, 0x005f), (0x203f, 0x2040), (0x2054, 0x2054), (0xfe33, 0xfe34), (0xfe4d, 0xfe4f),
   (0xff3f, 0xff3f)]

/-- The ranges of the join controls. -/
def joinControlRanges : List (Nat × Nat) :=
  [(0x200c, 0x200d)]

/-- The word characters. -/
def word : CharSet :=
  .ofPairs (alphabeticRanges ++ decimalDigitRanges ++ markRanges ++ connectorRanges
    ++ joinControlRanges)

end Criteria.Unicode
