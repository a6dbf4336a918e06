/-
# Criteria.Unicode.CaseFolding — characters that differ only in case

Simple case folding puts characters into classes; two characters of one class are equal when case
does not matter. Nearly every class has two members, and those come in runs: the same distance
between the two members, at evenly spaced code points (`pairRuns`). The classes with three or four
members are listed (`largeClasses`).

`closeUnderCase` adds to a set every character that differs only in case from one it has.
-/
import Criteria.Text.CharSet

namespace Criteria.Unicode

open Criteria.Text

/-- Classes of two: `first + i * stride` with the code point `distance` above it, for the first
`count` values of `i`. -/
structure PairRun where
  /-- The lower member of the first class. -/
  first : Nat
  /-- How many classes there are. -/
  count : Nat
  /-- From the lower member of one class to that of the next. -/
  stride : Nat
  /-- From the lower member of a class to the upper one. -/
  distance : Nat

/-- The classes of a run. -/
def PairRun.classes (run : PairRun) : List (List Nat) :=
  (List.range run.count).map fun i =>
    [run.first + i * run.stride, run.first + i * run.stride + run.distance]

/-- The classes with more than two members. -/
def largeClasses : List (List Nat) :=
  [[0x004b, 0x006b, 0x212a], [0x0053, 0x0073, 0x017f], [0x00b5, 0x039c, 0x03bc],
   [0x00c5, 0x00e5, 0x212b], [0x01c4, 0x01c5, 0x01c6], [0x01c7, 0x01c8, 0x01c9],
   [0x01ca, 0x01cb, 0x01cc], [0x01f1, 0x01f2, 0x01f3], [0x0345, 0x0399, 0x03b9, 0x1fbe],
   [0x0392, 0x03b2, 0x03d0], [0x0395, 0x03b5, 0x03f5], [0x0398, 0x03b8, 0x03d1, 0x03f4],
   [0x039a, 0x03ba, 0x03f0], [0x03a0, 0x03c0, 0x03d6], [0x03a1, 0x03c1, 0x03f1],
   [0x03a3, 0x03c2, 0x03c3], [0x03a6, 0x03c6, 0x03d5], [0x03a9, 0x03c9, 0x2126],
   [0x0412, 0x0432, 0x1c80], [0x0414, 0x0434, 0x1c81], [0x041e, 0x043e, 0x1c82],
   [0x0421, 0x0441, 0x1c83], [0x0422, 0x0442, 0x1c84, 0x1c85], [0x042a, 0x044a, 0x1c86],
   [0x0462, 0x0463, 0x1c87], [0x1c88, 0xa64a, 0xa64b], [0x1e60, 0x1e61, 0x1e9b]]

/-- The classes with two members. -/
def pairRuns : List PairRun :=
  [⟨0x0041, 10, 1, 32⟩, ⟨0x004c, 7, 1, 32⟩, ⟨0x0054, 7, 1, 32⟩, ⟨0x00c0, 5, 1, 32⟩,
   ⟨0x00c6, 17, 1, 32⟩, ⟨0x00d8, 7, 1, 32⟩, ⟨0x00df, 1, 1, 7615⟩, ⟨0x00ff, 1, 1, 121⟩,
   ⟨0x0100, 24, 2, 1⟩, ⟨0x0132, 3, 2, 1⟩, ⟨0x0139, 8, 2, 1⟩, ⟨0x014a, 23, 2, 1⟩, ⟨0x0179, 3, 2, 1⟩,
   ⟨0x0180, 1, 1, 195⟩, ⟨0x0181, 1, 1, 210⟩, ⟨0x0182, 2, 2, 1⟩, ⟨0x0186, 1, 1, 206⟩,
   ⟨0x0187, 1, 1, 1⟩, ⟨0x0189, 2, 1, 205⟩, ⟨0x018b, 1, 1, 1⟩, ⟨0x018e, 1, 1, 79⟩,
   ⟨0x018f, 1, 1, 202⟩, ⟨0x0190, 1, 1, 203⟩, ⟨0x0191, 1, 1, 1⟩, ⟨0x0193, 1, 1, 205⟩,
   ⟨0x0194, 1, 1, 207⟩, ⟨0x0195, 1, 1, 97⟩, ⟨0x0196, 1, 1, 211⟩, ⟨0x0197, 1, 1, 209⟩,
   ⟨0x0198, 1, 1, 1⟩, ⟨0x019a, 1, 1, 163⟩, ⟨0x019b, 1, 1, 42561⟩, ⟨0x019c, 1, 1, 211⟩,
   ⟨0x019d, 1, 1, 213⟩, ⟨0x019e, 1, 1, 130⟩, ⟨0x019f, 1, 1, 214⟩, ⟨0x01a0, 3, 2, 1⟩,
   ⟨0x01a6, 1, 1, 218⟩, ⟨0x01a7, 1, 1, 1⟩, ⟨0x01a9, 1, 1, 218⟩, ⟨0x01ac, 1, 1, 1⟩,
   ⟨0x01ae, 1, 1, 218⟩, ⟨0x01af, 1, 1, 1⟩, ⟨0x01b1, 2, 1, 217⟩, ⟨0x01b3, 2, 2, 1⟩,
   ⟨0x01b7, 1, 1, 219⟩, ⟨0x01b8, 1, 1, 1⟩, ⟨0x01bc, 1, 1, 1⟩, ⟨0x01bf, 1, 1, 56⟩, ⟨0x01cd, 8, 2, 1⟩,
   ⟨0x01de, 9, 2, 1⟩, ⟨0x01f4, 1, 1, 1⟩, ⟨0x01f8, 20, 2, 1⟩, ⟨0x0222, 9, 2, 1⟩,
   ⟨0x023a, 1, 1, 10795⟩, ⟨0x023b, 1, 1, 1⟩, ⟨0x023e, 1, 1, 10792⟩, ⟨0x023f, 2, 1, 10815⟩,
   ⟨0x0241, 1, 1, 1⟩, ⟨0x0244, 1, 1, 69⟩, ⟨0x0245, 1, 1, 71⟩, ⟨0x0246, 5, 2, 1⟩,
   ⟨0x0250, 1, 1, 10783⟩, ⟨0x0251, 1, 1, 10780⟩, ⟨0x0252, 1, 1, 10782⟩, ⟨0x025c, 1, 1, 42319⟩,
   ⟨0x0261, 1, 1, 42315⟩, ⟨0x0264, 1, 1, 42343⟩, ⟨0x0265, 1, 1, 42280⟩, ⟨0x0266, 1, 1, 42308⟩,
   ⟨0x026a, 1, 1, 42308⟩, ⟨0x026b, 1, 1, 10743⟩, ⟨0x026c, 1, 1, 42305⟩, ⟨0x0271, 1, 1, 10749⟩,
   ⟨0x027d, 1, 1, 10727⟩, ⟨0x0282, 1, 1, 42307⟩, ⟨0x0287, 1, 1, 42282⟩, ⟨0x029d, 1, 1, 42261⟩,
   ⟨0x029e, 1, 1, 42258⟩, ⟨0x0370, 2, 2, 1⟩, ⟨0x0376, 1, 1, 1⟩, ⟨0x037b, 3, 1, 130⟩,
   ⟨0x037f, 1, 1, 116⟩, ⟨0x0386, 1, 1, 38⟩, ⟨0x0388, 3, 1, 37⟩, ⟨0x038c, 1, 1, 64⟩,
   ⟨0x038e, 2, 1, 63⟩, ⟨0x0390, 1, 1, 7235⟩, ⟨0x0391, 2, 2, 32⟩, ⟨0x0394, 2, 2, 32⟩,
   ⟨0x0397, 1, 1, 32⟩, ⟨0x039b, 2, 2, 32⟩, ⟨0x039e, 2, 1, 32⟩, ⟨0x03a4, 2, 1, 32⟩,
   ⟨0x03a7, 2, 1, 32⟩, ⟨0x03aa, 2, 1, 32⟩, ⟨0x03b0, 1, 1, 7219⟩, ⟨0x03cf, 1, 1, 8⟩,
   ⟨0x03d8, 12, 2, 1⟩, ⟨0x03f2, 1, 1, 7⟩, ⟨0x03f7, 1, 1, 1⟩, ⟨0x03fa, 1, 1, 1⟩, ⟨0x0400, 16, 1, 80⟩,
   ⟨0x0410, 2, 1, 32⟩, ⟨0x0413, 2, 2, 32⟩, ⟨0x0416, 8, 1, 32⟩, ⟨0x041f, 2, 1, 32⟩,
   ⟨0x0423, 7, 1, 32⟩, ⟨0x042b, 5, 1, 32⟩, ⟨0x0460, 1, 1, 1⟩, ⟨0x0464, 15, 2, 1⟩,
   ⟨0x048a, 27, 2, 1⟩, ⟨0x04c0, 1, 1, 15⟩, ⟨0x04c1, 7, 2, 1⟩, ⟨0x04d0, 48, 2, 1⟩,
   ⟨0x0531, 38, 1, 48⟩, ⟨0x10a0, 38, 1, 7264⟩, ⟨0x10c7, 1, 1, 7264⟩, ⟨0x10cd, 1, 1, 7264⟩,
   ⟨0x10d0, 43, 1, 3008⟩, ⟨0x10fd, 3, 1, 3008⟩, ⟨0x13a0, 80, 1, 38864⟩, ⟨0x13f0, 6, 1, 8⟩,
   ⟨0x1c89, 1, 1, 1⟩, ⟨0x1d79, 1, 1, 35332⟩, ⟨0x1d7d, 1, 1, 3814⟩, ⟨0x1d8e, 1, 1, 35384⟩,
   ⟨0x1e00, 48, 2, 1⟩, ⟨0x1e62, 26, 2, 1⟩, ⟨0x1ea0, 48, 2, 1⟩, ⟨0x1f00, 8, 1, 8⟩, ⟨0x1f10, 6, 1, 8⟩,
   ⟨0x1f20, 8, 1, 8⟩, ⟨0x1f30, 8, 1, 8⟩, ⟨0x1f40, 6, 1, 8⟩, ⟨0x1f51, 4, 2, 8⟩, ⟨0x1f60, 8, 1, 8⟩,
   ⟨0x1f70, 2, 1, 74⟩, ⟨0x1f72, 4, 1, 86⟩, ⟨0x1f76, 2, 1, 100⟩, ⟨0x1f78, 2, 1, 128⟩,
   ⟨0x1f7a, 2, 1, 112⟩, ⟨0x1f7c, 2, 1, 126⟩, ⟨0x1f80, 8, 1, 8⟩, ⟨0x1f90, 8, 1, 8⟩,
   ⟨0x1fa0, 8, 1, 8⟩, ⟨0x1fb0, 2, 1, 8⟩, ⟨0x1fb3, 1, 1, 9⟩, ⟨0x1fc3, 1, 1, 9⟩, ⟨0x1fd0, 2, 1, 8⟩,
   ⟨0x1fe0, 2, 1, 8⟩, ⟨0x1fe5, 1, 1, 7⟩, ⟨0x1ff3, 1, 1, 9⟩, ⟨0x2132, 1, 1, 28⟩, ⟨0x2160, 16, 1, 16⟩,
   ⟨0x2183, 1, 1, 1⟩, ⟨0x24b6, 26, 1, 26⟩, ⟨0x2c00, 48, 1, 48⟩, ⟨0x2c60, 1, 1, 1⟩,
   ⟨0x2c67, 3, 2, 1⟩, ⟨0x2c72, 1, 1, 1⟩, ⟨0x2c75, 1, 1, 1⟩, ⟨0x2c80, 50, 2, 1⟩, ⟨0x2ceb, 2, 2, 1⟩,
   ⟨0x2cf2, 1, 1, 1⟩, ⟨0xa640, 5, 2, 1⟩, ⟨0xa64c, 17, 2, 1⟩, ⟨0xa680, 14, 2, 1⟩, ⟨0xa722, 7, 2, 1⟩,
   ⟨0xa732, 31, 2, 1⟩, ⟨0xa779, 2, 2, 1⟩, ⟨0xa77e, 5, 2, 1⟩, ⟨0xa78b, 1, 1, 1⟩, ⟨0xa790, 2, 2, 1⟩,
   ⟨0xa794, 1, 1, 48⟩, ⟨0xa796, 10, 2, 1⟩, ⟨0xa7b3, 1, 1, 928⟩, ⟨0xa7b4, 8, 2, 1⟩,
   ⟨0xa7c7, 2, 2, 1⟩, ⟨0xa7cc, 8, 2, 1⟩, ⟨0xa7f5, 1, 1, 1⟩, ⟨0xfb05, 1, 1, 1⟩, ⟨0xff21, 26, 1, 32⟩,
   ⟨0x10400, 40, 1, 40⟩, ⟨0x104b0, 36, 1, 40⟩, ⟨0x10570, 11, 1, 39⟩, ⟨0x1057c, 15, 1, 39⟩,
   ⟨0x1058c, 7, 1, 39⟩, ⟨0x10594, 2, 1, 39⟩, ⟨0x10c80, 51, 1, 64⟩, ⟨0x10d50, 22, 1, 32⟩,
   ⟨0x118a0, 32, 1, 32⟩, ⟨0x16e40, 32, 1, 32⟩, ⟨0x16ea0, 25, 1, 27⟩, ⟨0x1e900, 34, 1, 34⟩]

/-- Every class with more than one member. -/
def caseClasses : List (List Nat) :=
  largeClasses ++ pairRuns.flatMap PairRun.classes

/-- The set with every character that differs only in case from one of its own. -/
def closeUnderCase (s : CharSet) : CharSet :=
  let partners := (caseClasses.filter s.meets).flatten
  .ofRanges (s.ranges ++ partners.map fun n => ⟨n, n⟩)

end Criteria.Unicode
