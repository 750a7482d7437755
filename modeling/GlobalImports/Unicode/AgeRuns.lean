/-! The versions of Unicode in which the code points were assigned, as runs from U+0000 to U+10FFFF.
A run is the letter of its version, or a hyphen where none has been assigned, and its length, the
length left out where it is one. Surrogates are no characters and count as not assigned. -/

namespace GlobalImports.Unicode

def ageRuns : List String :=
  ["a502 d4 a30 d8 f g d18 g3 h11 i14 a89 d5 g2 a47 d a10 d5 g17 a70 d9 f g8 h5 g3 a2 d f13 j4",
   "a2 j2 -2 a i3 a p -4 a7 - a - a20 - a44 j a7 d f2 a d a d a d a d a18 e2 f g5 h4 d a12 d a66",
   "d a12 d a41 j d2 f2 d4 a53 f2 a2 f2 a2 f2 i a28 d2 a8 h2 a2 i6 f16 i4 j16 k2 l2 p8 - a38 -2",
   "a7 t a39 t a d -2 p2 m - b17 h b13 a10 i a9 b h3 -8 a27 -4 t a5 -11 g4 m p j5 h a g9 j5 a o",
   "x h a l a26 j5 a19 d3 g3 h6 l a14 f2 a72 d2 a5 d a15 d a30 g2 a10 d5 g d14 - d30 g3 d27 -2",
   "g3 h30 j18 d49 f -14 i59 -2 t3 k46 -2 k15 - l28 -2 l - s11 -5 x31 - x2 -5 A x8 m p m11 p6 q2",
   "x r8 w10 x11 t r15 q m27 p k a3 g a53 l2 a18 k l a5 k l2 a25 j2 l5 p k2 i2 h i2 p a3 - a8 -2",
   "a2 -2 a22 - a7 - a -3 a4 -2 a g a7 -2 a2 -2 a3 h -8 a -4 a2 - a5 -2 a21 k s2 t -2 g a g - a6",
   "-4 a2 -2 a22 - a7 - a2 - a2 - a2 -2 a - a5 -4 a2 -2 a3 -3 j -7 a4 - a -7 a15 j t -10 a3 - a7",
   "g a - a3 - a22 - a7 - a2 - a5 -2 a10 - a3 - a3 -2 a -15 a g3 -2 a10 m g -7 q s6 - a3 - a8 -2",
   "a2 -2 a22 - a7 - a2 - g a4 -2 a8 j -2 a2 -2 a3 -7 w a2 -4 a2 - a3 j2 -2 a11 g l6 -10 a2 - a6",
   "-3 a3 - a4 -3 a2 - a - a2 -3 a2 -3 a3 -3 a8 h a3 -4 a5 -3 a3 - a4 -2 j -6 a -14 h a12 g8 -5",
   "p a3 t a8 - a3 - a23 - a10 p a5 -2 x j a7 - a3 - a4 -7 a2 - j2 q -2 x -2 a2 j2 -2 a10 -7 u",
   "j8 r p a2 t a8 - a3 - a23 - a10 - a5 -2 g2 a7 - a3 - a4 -7 a2 -6 x a - a2 i2 -2 a10 - i2 y",
   "-12 s p a2 w a8 - a3 - a23 l a16 l s2 j a6 j - a3 - a4 l r -4 r3 a r7 q a2 j2 -2 a10 j6 r3",
   "j7 - w d2 - d18 -3 d24 - d9 - d -2 d7 -3 d -4 d6 - d - d8 -6 p10 -2 d3 -12 a58 -4 a29 -37 a2",
   "- a - u a2 u a - u a u6 a4 u a7 u a3 - a - a u2 a2 u a13 u a3 -2 a5 - a - a6 y - a10 -2 a2",
   "m2 -32 b72 - b33 d j2 -4 b27 l4 b6 d b - b21 d3 b7 d b d3 - d15 - j d h2 j3 k4 l2 -37 d34 j",
   "d5 j d2 j d7 j3 d4 j6 d26 j64 k4 j2 a38 - m -5 m -2 a39 f2 h2 a h m3 a90 k5 a68 k5 a82 k6 d7",
   "h d63 h d - d4 -2 d7 - d - d4 -2 d39 h d - d4 -2 d31 h d - d4 -2 d7 - d - d4 -2 d7 h d7 -",
   "d23 h d31 h d - d4 -2 d7 h d39 h d19 -2 l2 h2 d28 -3 h26 -6 d85 q -2 q6 -2 k d630 k9 d29 -3",
   "d81 p8 -7 f13 x f7 x -9 x f23 -9 f20 -12 f13 - f3 - f2 -12 d93 g -2 d10 -6 g10 -6 d15 x d10",
   "-6 d88 t -7 d42 j -5 k70 -10 g29 p2 - g12 -4 g12 -4 g -3 g42 -2 g5 -11 h42 k2 -4 h26 -6 h10",
   "k -3 h2 g32 h28 -2 h2 k63 - k29 -2 k11 -6 k10 -6 k14 -2 p15 w2 x14 -49 i76 x - A2 i45 x2 A",
   "j43 m3 j12 m6 l52 -8 l4 j56 -3 j15 -3 j51 r9 A2 -5 t43 -2 t3 m8 -8 k35 m4 s p2 u -5 g108 h88",
   "i7 j28 p15 s4 x r l k i2 a155 b j4 a90 j6 a22 -2 a6 -2 a38 -2 a6 -2 a8 - a - a - a - a31 -2",
   "a53 - a15 - a14 -2 a6 - a19 -2 a3 - a9 - a47 d a23 f d6 f5 g2 h2 f h7 f5 j - o4 a7 f -2 a27",
   "- h5 l8 -3 a11 b c d3 f2 h4 k3 l n p3 q s x -15 a18 d2 f7 h i4 j -15 a57 d2 g h f15 h i2 j",
   "k3 a48 d i j4 k q2 -4 a91 d9 f12 a242 f14 a d a121 d f d30 f52 g2 h11 i12 k l11 p7 r4 s a37",
   "d2 A3 -22 a11 -21 a139 f20 g a150 f10 a80 d8 f8 a20 g2 f2 h d a86 d2 f12 h2 f10 g8 h11 j k2",
   "g2 h16 i j10 k3 j4 k10 l k19 l k l4 k24 p a4 l a4 l2 a28 l a35 l a l a4 l3 a k a7 l2 a7 f14",
   "a31 l3 a24 l a14 l h7 i4 m j m l2 f28 j4 f16 d256 f512 g14 h6 i7 j5 i4 j41 p3 j5 k5 p26 -2",
   "p32 - w p34 t3 p12 u p8 s t25 q4 t15 u h47 x h47 x i13 j3 k j3 i4 j6 k2 h107 k7 m2 -5 h45 -",
   "m -5 m -2 h54 m2 -7 h l -14 l h23 -9 h7 - h7 - h7 - h7 - h7 - h7 - h7 - h7 - j32 h24 j4 h2",
   "j19 k m10 p7 r2 s5 t5 u w3 x11 -34 d26 - d89 -12 d214 -26 d12 z4 a56 d3 f3 d a - a84 f2 -2",
   "a6 f2 a94 f -5 a40 j s t - a94 - a16 d24 l3 w5 h16 j20 A2 -9 z f16 a29 g2 - a36 k12 g f15",
   "a28 g2 h a50 f15 a12 g4 a47 v a119 g4 a99 g2 a31 g d6582 w10 g64 a20902 h22 j8 k8 m q9 s21",
   "t5 w13 x3 d1165 -3 d18 f2 d16 f d12 f d3 f d -9 k48 j300 -20 j32 l2 j18 m8 j28 p6 q m k88 -8",
   "h23 i4 j5 i2 j107 l2 q l2 m2 p12 l10 m p3 r t p2 q6 t2 u6 x2 u5 w4 A3 -2 x2 - x - x5 A3 -21",
   "x3 w2 p m2 l j5 h44 w -3 k10 -6 i56 -8 j69 r -8 j12 -6 k28 q2 t2 j84 -11 j k29 -3 k78 - k11",
   "-4 k2 p31 - j55 -9 j14 -2 j10 -2 j4 k28 p4 k67 -24 k5 m23 -10 l6 -2 l6 -2 l6 -9 l7 - l7 -",
   "p48 q4 p2 u2 w4 -4 q80 k46 -2 k10 -6 b11172 -12 k23 -4 k49 -2052 a6702 m2 f59 k3 -2 h106",
   "-38 a7 -12 a5 -5 d a25 - a5 - a - a2 - a2 - a108 l16 x -16 a365 x16 a64 -2 a54 -7 x e32 a12",
   "f g x2 f16 h10 -6 a4 j3 p7 q2 a21 f2 g2 a10 - a19 - a4 -4 a3 f a - a135 -2 a - a94 f2 a94 -3",
   "a6 -2 a6 -2 a6 -2 a3 -3 a7 - a7 -10 d3 c a3 g12 - g26 - g19 - g2 - g15 -2 g14 -34 g123 -5 g3",
   "-4 g45 -3 g9 h75 p2 r2 - j12 w -3 p -47 j46 -130 j29 -3 j49 -15 p28 -4 e31 p e4 -9 s3 e27 -5",
   "p43 -5 g30 - g h36 -4 h14 -42 e38 g2 e38 g80 -2 g10 -6 r36 -4 r36 -4 p40 -8 p52 -11 p x11 -",
   "x15 - x7 - x2 - x11 - x15 - x7 - x2 -3 A52 -12 p311 -9 p22 -10 p8 -24 x6 - x42 - x9 -69 g6",
   "-2 g - g44 - g2 -3 g -2 g k22 - k9 p63 -8 p9 -48 q19 - q2 -5 q5 i26 k2 -3 i j26 -5 j -64 m56",
   "-4 q2 m2 q16 -2 q46 h4 - h2 -5 h8 - h3 - h27 t2 -2 h3 -4 h9 t -7 h9 -7 k32 p32 -32 p39 -4",
   "p12 -9 k54 -3 k29 -2 k27 -5 k8 p18 -7 p4 -12 p7 -80 k73 -55 q51 -13 q51 -7 q6 t40 -8 t10 -6",
   "A38 -3 A29 -8 A2 -208 k31 - w42 - w3 -2 w2 -16 A3 -55 A y3 t40 -8 t42 -22 x26 -38 w28 -20",
   "u23 -9 l78 -4 l30 x6 -9 p k66 x -10 t -2 m25 -7 m10 -6 m53 - m14 t3 w -8 p39 -9 m73 q4 p w2",
   "m10 p q5 - p20 -11 p18 - p43 r y3 -62 q7 - q - q4 - q15 - q11 -6 p59 -5 p10 -6 q p3 - p8 -2",
   "p2 -2 p22 - p7 - p2 - p5 - t p9 -2 p2 -2 p3 -2 q -6 p -5 p7 -2 p7 -3 p5 -11 A10 - A -2 A -",
   "A38 - A10 - A -2 A - A4 - A10 - A2 -8 A2 -29 r90 w r - r t u w2 -30 p72 -8 p10 -166 p54 -2",
   "p18 q20 -34 p69 -11 p10 -6 r13 -19 m56 u x -6 m10 -6 A20 -28 q26 t -2 q15 -4 q16 x7 -185 t60",
   "-100 p83 -12 p w7 -2 w -2 w8 - w2 - w30 - w2 -2 w12 -9 w10 -70 u8 -2 u46 -2 u11 -27 s72 -8",
   "s52 u2 s23 t s5 -13 x16 p57 -7 y10 -182 A34 -14 A10 -6 r9 - r45 - r14 -10 r29 -3 r32 -2 r22",
   "- r14 -73 s7 - s2 - s44 -3 s - s2 - s9 -8 s10 -6 t6 - t2 - t37 - t2 - t6 -7 t10 -310 t25 -7",
   "y17 - y41 -3 y28 A -85 w -15 u50 -13 u i879 p42 q -102 i99 p12 - i4 p -11 q196 -2636 x99 -13",
   "k1071 y u9 y29 -10 A3995 -5 q583 -6841 A58 -1734 l569 -7 p31 - p10 -4 p2 x79 - x10 -6 p30 -2",
   "p6 -10 p70 -10 p10 - p7 - p21 -5 p19 -432 A58 -198 t91 -101 m69 u6 -4 u m47 u9 -7 m17 -64 r",
   "s u2 w -11 w2 -14 r6125 t5 u6 -8 r755 w483 -41 A w9 -8935 x4 - x7 - x2 - l2 s285 x4 -15 y",
   "-29 u3 -2 y -14 u4 -8 s396 -2308 p107 -5 p13 -3 p9 -7 p10 -2 p8 -3932 A250 -6 A436 -76 x46",
   "-2 x23 -9 x116 -60 e246 -10 e39 -2 j e180 q11 x2 -21 h70 -122 y20 -12 t20 -12 g87 -9 i18 t7",
   "-135 e85 - e71 - e2 -2 e -2 e2 -2 e4 - e12 - e - e4 g e2 - e65 - e4 -2 e8 - e7 - e28 - e4 -",
   "e5 - e -3 e7 - e338 h2 -2 e290 i2 -2 e50 q652 -15 q5 - q15 -1104 x31 -6 y6 -213 r7 - r17 -2",
   "r7 - r2 - r5 -5 y62 -33 y -112 u45 -3 u14 -2 u10 -4 u2 -320 x31 -17 u58 -5 u -464 y42 -214",
   "A43 -4 A -480 x7 - x4 - x2 - x15 - p197 -2 p16 -41 r75 u -4 r10 -4 r2 -785 t68 -76 u61 -194",
   "m4 - m27 - m2 - m -2 m - m10 - m4 - m - m -6 m -4 m - m - m - m3 - m2 - m -2 m - m - m - m -",
   "m - m2 - m -2 m4 - m7 - m4 - m4 - m - m10 - m17 -5 m3 - m5 - m17 -52 m2 -270 j44 -4 j100 -12",
   "l15 -2 l14 p - l15 - l15 p22 -10 k11 p2 w3 k31 t l k l11 k l k l2 k l3 k l3 k5 l8 k l7 k l10",
   "m2 u w3 l9 k l k2 l2 k l10 k4 l2 k l10 r18 w -56 l26 k l2 -13 k34 l9 r -4 k9 -7 l2 -14 s6",
   "-154 l33 p12 q3 l6 p l70 p q2 l20 p12 l37 p l5 p4 q5 p12 l17 p7 q8 l63 p l p l182 p l4 p2 q",
   "l62 p2 m4 p7 q5 l24 p18 r p41 r p86 l5 m l16 m l3 m l m l m l m l3 m l6 m2 l4 m l m2 l4 m",
   "l12 p2 q2 l11 p48 l70 p10 q r2 s2 u w2 -4 y x3 p13 -3 p4 r3 s2 t u w2 -3 l116 y3 -4 y5 p85",
   "t4 y -6 u12 -4 x -15 p12 -4 p56 -8 p10 -6 p40 -8 p30 -2 w2 A10 -4 A2 -62 s12 w u3 q9 r6 s r8",
   "s8 r s2 r12 u r12 s t3 r15 s13 t5 u w t4 w2 x t u t4 q5 r13 s6 t11 w2 u6 w3 u2 t10 u6 q t2",
   "u8 w x u3 s23 t25 u84 -12 t14 -2 u4 w y3 u3 x2 -3 u3 w4 y2 A -5 A u6 w19 x4 y3 w7 x4 y3 A y",
   "w3 x3 A -7 y2 w7 x3 y2 A -2 A x8 y A -6 x7 y2 -7 w147 - w55 A37 w10 -1028 b2 e42711 w7 x2",
   "-32 k4149 x4 y -6 l222 -2 q5762 -14 s7473 -15 z622 -2466 e542 -1504 b2 w4939 -5 y4192 -56398",
   "b2 -65534 b2 -65534 b2 -65534 b2 -65534 b2 -65534 b2 -65534 b2 -65534 b2 -65534 b2 -65534 b2",
   "-65534 b2 - e -30 e96 -128 g240 -65038 b131074"]

end GlobalImports.Unicode
