import OperatorPeg.Unicode.Encoded

/-!
# Column widths

How many columns of a terminal a character takes: none if it only changes the
character before it, two if it is an East Asian wide one, else one.
-/

namespace OperatorPeg.Unicode

/-- The characters that take no column. -/
def zeroWidth : CharSet := decode
  "4t 0 gi 33 7n 6 7b 18 1 0 1 1 1 1 1 0 1p 0 a a 1 0 1a k g 0 2t 6 2 5 2 1 1 3 x 0 1 0 u q 2j a 1m
8 9 0 o 3 1 8 1 2 1 4 17 2 1g 1 5 8 16 1k 1j 0 1 0 4 7 4 0 3 6 a 1 t 0 1m 0 1 0 2 3 8 0 9 0 a 1
q 0 2 1 1l 0 4 1 4 1 2 2 3 0 u 1 3 0 b 1 1l 0 4 4 1 1 4 0 k 1 m 5 1 0 1m 0 1 1 1 3 8 0 7 2 a 1 u
0 1n 0 1 0 c 0 9 0 14 0 3 0 1j 0 1 2 5 2 1 3 7 1 b 1 t 0 1m 0 2 1 1 0 3 2 1 3 7 1 b 1 s 1 1l 1 1
0 2 3 8 0 9 0 a 1 t 0 20 0 4 0 2 2 1 0 8 0 29 0 2 6 c 7 2q 0 2 8 b 6 21 1 r 0 1 0 1 0 1j d 1 4 1
1 5 a 1 z 9 0 2u 3 1 5 1 1 2 1 p 1 4 2 g 3 d 0 2 1 6 0 f 0 5e 4f 9p 2 qa 3 s 2 t 1 u 1 1s 1 1 6
8 0 2 a 9 0 19 4 39 1 y 0 3a 2 4 1 9 0 6 2 63 1 2 0 1m 0 1 6 1 0 1 0 2 7 6 9 2 0 1c u 1d 3 1c 9
4 2 12 8 c 1 w 3 2 5 1k 0 1 1 3 0 1 4 1k 7 2 1 48 2 1 c 1 6 4 0 6 0 3 1 5i 1r ej 4 q 4 1d f 2o w
2da 2 6m v fe 5 2x 1 5l 0 n4a 3 1 9 w 1 28 1 7k 0 3 0 4 0 p 1 5 0 47 1 q h 8 0 4 0 12 7 p a 1 0
18 2 1c 0 2 3 2 1 2 0 10 0 1v 5 2 1 2 1 c 0 8 0 1b 0 1f 0 1 2 2 1 5 1 1 0 16 1 8 0 6m 0 2 0 4 0
8n6 m 4 1c 6xu 0 kh f g f 5r 0 4e 2 27 8 ec 0 6a 0 45 4 1ae 2 1 1 5 3 14 2 4 0 4l 1 fx 3 1t 4 8t
1 27 3 1y a 1d 3 3f 0 1i e 15 0 2 1 a 2 1d 3 2 1 7 0 1p 2 10 4 1 7 1q 0 c 1 1g 8 1 0 8 3 2 0 2n
2 2 3 6 0 2 0 4d 0 3 7 l 1 1l 1 1 0 1 0 c 0 9 0 e 6 3 4 1v 0 2 5 1 0 2 0 1 2 4 2 1 0 e 1 2d 7 2
2 1 0 n 0 29 0 2 5 1 0 2 0 1 1 1 1 6j 0 2 3 6 1 1 1 r 1 2d 7 2 0 1 1 2y 0 1 0 2 7 2t 0 1 0 2 3 1
4 77 8 1 1 6t 0 a 3 4 0 40 3 2 1 4 0 w 9 14 5 2 3 8 0 9 5 2 2 1a c 1 1 ba 6 1 5 1 0 2a l 2 6 1 1
1 1 3e 5 3 0 1 1 1 6 1 0 20 1 3 0 1 0 9n 1 b 1 1g 4 5 2 n 0 44l 0 6 e 8ug b 3 2 1xc 4 1n 6 t4 0
1r 3 29 0 b 1 f57 1 1 3 3mk 19 2 m f2 4 3 l 2 6 u 3 44 2 1iz 1i 4 1d 8 0 e 0 m 4 1 e 11s 6 1 g 2
6 1 1 1 4 2s 0 4g 6 af 0 1p 3 e4 3 72 1 kg 6 31 6 gzat 35r"

/-- The characters that take two columns. -/
def wide : CharSet := decode
  "3cw 2n 18k 0 29h 1 d 1 5a 3 3 0 2 0 eh 1 l 1 q 7 g b 17 0 a 5 3 0 d 0 8 1 h 1 5 1 8 0 5 0 l 0 7
1 1 0 4 0 2 0 7 0 4 1 s 0 z 0 1 0 4 2 1 0 1p 2 o 0 e 0 nv 1 1f 0 4 0 mi p 1 2g c 5x q 1l 6 e 2
2d 4 2s 5 16 1 1e 1 15 1 2d 9 1b 1 13 8 mkc 3 1i wp s hv 8mb 6l8 e7 ls 9 m y 1 i 1 3 45 2n 3j 6
m49 3 s 4qf 8 yd 15 9 6w7 3 1 6 1 1 1 82 f 0 t 2 2 0 e 3 8 az 6bo 2e 9 m 5n1 0 5m 0 5a 0 2 9 2t
2 d 17 4 8 7 1 e 5 4a w c 8 1 1x 1 l c 16 4 4 c g 3 0 3 1y 1 0 1 56 2 1q d 3 1 n i 0 q 1 d 0 2e
2c 1c 1x 6 0 3 2 2 2 4 3 b 1 7 8 6b b 4 0 7v 1a 1 9 1 54 34 c 3 9 5 1j 7 e 2 a 6 8 zr 1ekd 2
1ekd"

/-- The number of columns that a character takes. A single Khmer sign takes three. -/
def columns (c : Char) : Nat :=
  if zeroWidth.contains c then 0
  else if c = '\u17D8' then 3
  else if wide.contains c then 2
  else 1

end OperatorPeg.Unicode
