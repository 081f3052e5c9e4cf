import OperatorPeg.Unicode.Encoded

/-!
# Simple case folding

Characters that differ in case only form small groups. Most groups are pairs,
and most pairs come in rows: `capital + i * stride` goes with the character a
fixed distance above it. The few larger groups are listed.
-/

namespace OperatorPeg.Unicode

/-- A row of pairs: for each `i` below `count`, the characters
`first + i * stride` and `first + i * stride + distance` differ in case only. -/
structure FoldRow where
  first : Nat
  distance : Nat
  stride : Nat
  count : Nat
  deriving DecidableEq, Repr

/-- Rows from a list of numbers, four for each. -/
def foldRowsFrom : List Nat → List FoldRow
  | first :: distance :: stride :: count :: rest =>
      ⟨first, distance, stride, count⟩ :: foldRowsFrom rest
  | _ => []

def foldRows : List FoldRow := foldRowsFrom (numbers
  "1t w 1 a 24 w 2 8 25 w 2 3 2d w 2 3 5c w 2 g 5d w 2 2 5j w 2 8 61 w 2 3 67 5vj 1 1 73 3d 1 1 74
1 2 o 8i 1 2 3 8p 1 2 8 96 1 2 n ah 1 2 3 ao 5f 1 1 ap 5u 1 1 aq 1 2 2 au 5q 1 1 av 1 1 1 ax 5p
1 2 az 1 1 1 b2 27 1 1 b3 5m 1 1 b4 5n 1 1 b5 1 1 1 b7 5p 1 1 b8 5r 1 1 b9 2p 1 1 ba 5v 1 1 bb
5t 1 1 bc 1 1 1 be 4j 1 1 bf wu9 1 1 bg 5v 1 1 bh 5x 1 1 bi 3m 1 1 bj 5y 1 1 bk 1 2 3 bq 62 1 1
br 1 1 1 bt 62 1 1 bw 1 1 1 by 62 1 1 bz 1 1 1 c1 61 1 2 c3 1 2 2 c7 63 1 1 c8 1 1 1 cc 1 1 1 cf
1k 1 1 ct 1 2 8 da 1 2 9 dw 1 1 1 e0 1 2 k f6 1 2 9 fu 8bv 1 1 fv 1 1 1 fy 8bs 1 1 fz 8cf 1 2 g1
1 1 1 g4 1x 1 1 g5 1z 1 1 g6 1 2 5 gg 8bj 1 1 gh 8bg 1 1 gi 8bi 1 1 gs wnj 1 1 gx wnf 1 1 h0 wo7
1 1 h1 wmg 1 1 h2 wn8 1 1 h6 wn8 1 1 h7 8af 1 1 h8 wn5 1 1 hd 8al 1 1 hp 89z 1 1 hu wn7 1 1 hz
wmi 1 1 il wlx 1 1 im wlu 1 1 og 1 2 2 om 1 1 1 or 3m 1 3 ov 38 1 1 p2 12 1 1 p4 11 1 3 p8 1s 1
1 pa 1r 1 2 pc 5kz 1 1 pd w 2 2 pg w 2 2 pj w 1 1 pn w 2 3 pq w 1 1 pw w 1 2 pz w 1 2 q2 w 1 2
q8 5kj 1 1 r3 8 1 1 rc 1 2 c s2 7 1 1 s7 1 1 1 sa 1 1 1 sg 28 1 g sw w 1 2 sz w 2 7 t2 w 2 4 tc
w 1 1 tf w 1 7 tn w 1 5 v4 1 1 1 v8 1 2 f wa 1 2 r xs f 1 1 xt 1 2 7 y8 1 2 1c 10x 1c 1 12 3a8
5ls 1 12 3bb 5ls 1 1 3bh 5ls 1 1 3bk 2bk 1 17 3ct 2bk 1 3 3vk tzk 1 28 3xs 8 1 6 5mx 1 1 1 5tl
r9g 1 1 5tp 2xy 1 1 5u6 raw 1 1 5xc 1 2 1c 602 1 2 q 61s 1 2 1c 64g 8 1 8 64w 8 1 6 65c 8 1 8
65s 8 1 8 668 8 1 6 66p 8 2 4 674 8 1 8 67k 22 1 2 67m 2e 1 4 67q 2s 1 2 67s 3k 1 2 67u 34 1 2
67w 3i 1 2 680 8 1 8 68g 8 1 8 68w 8 1 8 69c 8 1 2 69f 9 1 1 69v 9 1 1 6a8 8 1 2 6ao 8 1 2 6at 7
1 1 6b7 9 1 1 6k2 s 1 1 6lc g 1 g 6mb 1 1 1 792 q 1 q 8ow 1c 1 1c 8rk 1 1 1 8rr 1 2 3 8s2 1 1 1
8s5 1 1 1 8sg 1 2 1e 8vf 1 2 2 8vm 1 1 1 wu8 1 2 5 wuk 1 2 h ww0 1 2 e x0i 1 2 7 x0y 1 2 v x2x 1
2 2 x32 1 2 5 x3f 1 1 1 x3k 1 2 2 x3o 1c 1 1 x3q 1 2 a x4j ps 1 1 x4k 1 2 8 x53 1 2 2 x58 1 1 1
x5c 1 1 1 x5i 1 2 3 x6d 1 1 1 1dl1 1 1 1 1ee9 w 1 q 1fcw 14 1 14 1fhs 14 1 10 1fn4 13 2 j 1fn5
13 2 5 1fnh 13 2 7 1fnx 13 2 3 1fo5 13 1 1 1h1c 1s 1 1f 1h74 w 1 m 1jfk w 1 w 20cg w 1 w 2olc y
1 y")

/-- Groups of more than two. -/
def foldGroups : List (List Nat) :=
  [[0x4B, 0x6B, 0x212A], [0x53, 0x73, 0x17F], [0xB5, 0x39C, 0x3BC], [0xC5, 0xE5, 0x212B],
   [0x1C4, 0x1C5, 0x1C6], [0x1C7, 0x1C8, 0x1C9], [0x1CA, 0x1CB, 0x1CC], [0x1F1, 0x1F2, 0x1F3],
   [0x345, 0x399, 0x3B9, 0x1FBE], [0x392, 0x3B2, 0x3D0], [0x395, 0x3B5, 0x3F5],
   [0x398, 0x3B8, 0x3D1, 0x3F4], [0x39A, 0x3BA, 0x3F0], [0x3A0, 0x3C0, 0x3D6],
   [0x3A1, 0x3C1, 0x3F1], [0x3A3, 0x3C2, 0x3C3], [0x3A6, 0x3C6, 0x3D5], [0x3A9, 0x3C9, 0x2126],
   [0x412, 0x432, 0x1C80], [0x414, 0x434, 0x1C81], [0x41E, 0x43E, 0x1C82],
   [0x421, 0x441, 0x1C83], [0x422, 0x442, 0x1C84, 0x1C85], [0x42A, 0x44A, 0x1C86],
   [0x462, 0x463, 0x1C87], [0x1C88, 0xA64A, 0xA64B], [0x1E60, 0x1E61, 0x1E9B]]

def insertPair (s acc : CharSet) (a b : Nat) : CharSet :=
  let acc := if CharSet.containsCode a s.ranges then acc.insert b b else acc
  if CharSet.containsCode b s.ranges then acc.insert a a else acc

def foldRow (s acc : CharSet) (row : FoldRow) : CharSet :=
  (List.range row.count).foldl (fun acc i =>
    let a := row.first + i * row.stride
    insertPair s acc a (a + row.distance)) acc

def foldGroup (s acc : CharSet) (group : List Nat) : CharSet :=
  if group.any (CharSet.containsCode · s.ranges) then
    group.foldl (fun acc c => acc.insert c c) acc
  else acc

/-- The set with every character that differs from a member in case only. -/
def foldCase (s : CharSet) : CharSet :=
  foldGroups.foldl (foldGroup s) (foldRows.foldl (foldRow s) s)

/-- The same for ASCII letters alone. -/
def foldCaseAscii (s : CharSet) : CharSet := foldRow s s ⟨0x41, 0x20, 1, 26⟩

end OperatorPeg.Unicode
