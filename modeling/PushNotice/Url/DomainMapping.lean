import PushNotice.Unicode.Composition

/-!
# PushNotice.Url.DomainMapping

**Characters of host names.** A character is not allowed in the name of a host, is left out of it,
stands for itself, or stands for others: a capital for the small letter, a ligature for its parts.
-/

namespace PushNotice.Url

open Unicode (CharSet)

/-- The characters that no name may hold. -/
def disallowedChars : CharSet :=
  CharSet.ofTable
    "80+1f 2d9+1 7+3 8 2 15 18e 27+1 33+1 4 38+7 1c+3 7+10 17 c1 31+1 3c+1 66+d 3c+1 32+1 10
    1d+1 2 c+4 20+7 4c a2 9+1 3+1 17 8 2+2 5+1 a+1 3+1 5+7 2+3 3 6+1 1a+1 4 7+3 3+1 17 8 3 3 3+1
    2 6+3 3+1 4+2 2+6 5 2+6 12+9 4 a 4 17 8 3 6+1 b 4 4+1 2+e 5+1 d+6 8 4 9+1 3+1 17 8 3 6+1 a+1
    3+1 4+6 4+3 3 6+1 13+9 3 7+2 4 5+2 3 2 3+2 3+2 4+2 d+3 6+2 4 5+1 2+5 2+d 16+4 e 4 18 11+1 a
    4 5+6 3 4+1 2+1 5+1 b+6 17 4 18 b 6+1 a 4 5+6 3+5 3 5+1 b 4+b e 4 34 4 7+3 11+1 1b 4 13+2 19
    a 2+1 8+2 2+3 7 2 9+5 b+1 4+b 3b+3 1e+24 3 2 6 19 2 18+1 6 2 8 b+1 5+1f 49 25+3 28 25 10
    e+24 c7 2+4 2+1 17a 5+1 8 2 5+1 2a 5+1 22 5+1 8 2 5+1 10 3a 5+1 44+1 21+2 1b+5 57+1 7+1 281
    1d+2 5a+6 17+8 19+8 15+b e 4 3+b 5f+1 b+5 b+5 1b+5 5a+6 2c+4 47+9 20 d+3 d+3 2+2 2b+1 6+a
    2d+3 1b+5 c+2 3f+1 42 1e+1 c+5 b+5 f+1 20+30 4e a7+7 3d+2 10+2 3f+4 2c+1 c+7 2c+4 217+1 7+1
    27+1 7+1 9 2 2 2 20+1 36 10 f+1 7 14+1 4 a f+1 15+2 2+6 37+4 9+1 1c e+2 22+e 22+e 8d+3
    29b+15 c+14 29+13 6d9+1 21 15e+4 2e 2+4 2+1 39+6 3+d 19+8 8 8 8 8 8 8 8 8 7f+21 1b 5a+b
    d7+29 41 57+1 68+4 2c 5f 57+9 30 1a3 5 11 70b5+2 38+8 15d+13 b9+7 cf+1 3 2 9+14 3c+2 b+5
    39+7 47+7 d+5 75+a 1f+2 4f c+3 22 38+8 f+1 b+1 68+17 1d+9 7+1 7+1 7+8 8 8 3d+3 7f+1 b+5
    2ba5+b 18+3 32+2103 16f+1 6b+25 8+b 6+4 1b 6 2 3 3 7e+f 1be+1 37+6 2+1f 23 7+6 11 22+1 14
    5+3 6 88+1 2 bf+2 7+1 7+1 7+1 4+2 8 8+10 d 1b 14 3 10+1 f+21 7c+4 4+3 2e+2 59 e+2 2+2e 2f+81
    1e+2 32+e 1d+3 25+8 1f+4 2c+4 1f 26+3 f+29 9f+1 b+5 25+3 25+3 29+7 35+a d 10 8 3 c 10 8 3+2
    35+b 138+8 17+9 9+17 7 2b a+44 7+1 2 2d 3+2 2+1 18 49+7 a+2f 14 3+4 22+2 1c+4 2+3f 39+3 15+1
    33 3+4 9 4 1e+1 4+3 b+6 a+6 41+1f 28+3 d+8 37+2 1e+1 1c+4 1b+6 5+b 8+4f 4a+36 34+c 34+6 2f+7
    b+5 27+2 1e+7 3+cf 20 2b 4+1 3+f 4+36 2d+7 2b+15 1b+25 1d+13 18+8 4f+3 25+8 3f 6+c 1a+6 b+5
    36 13+7 28+8 61 15+a 13 30+3d 8 2 5 10 c+5 3c+4 b+5 5 9+1 3+1 17 8 3 6 b+1 3+1 4+1 2+5 2+4
    8+1 8+2 6+a b 2+1 2 27 b 2+1 2 5 b 3+7 3+1c 5d 6+1d 49+7 b+a5 37+1 27+21 46+a b+5 e+12 3b+5
    b+5 15+1b 1c+1 10+3 18+b8 3d+63 54+b 9+1 2+1 9 3 1f 3+1 d+8 b+45 9+1 2f+1 c+1a 49+7 54+c
    4a+6 b+b5 23+d b+5 a 2e f+9 1e+2 21+1 17 f+48 8 3 2d+2 2 3 a+7 b+5 7 3 26 3 7+6 b+135 1a+6
    12 2a+2 1e+54 2+e 33+c 39c+65 70 6+a c5+a4b 64+c 431+f 17+9 f9c+4 248+1ab8 3b+6c5 23a+6 20
    b+3 52 b+5 1f+1 7+9 47+9 b 8 16+4 14+1af 3b+c5 5c+64 4c+3 3a+6 12+3f 6+a 3+d 17f9+7 4d7+28
    b+22e6 5 8 3 124+e 2+1c 4+1 2+d 5+7 18d+903 6c+4 e+2 a+6 b+1 9+f5b fb+5 1b5+4b 2f+1 18+8
    75+3b f7+9 28+1 c3+14 47+79 15+b 15+b 58+8 1a+86 56 48 3+1 2+1 3+1 5 d 2 8 42 5+1 9 8 1d 5 6
    2+2 8 155+1 125+1 2bf+e 6 10+44f 20+5 7+d4 8 12+1 8 3 6+4 3f+20 2+6f 2e+2 f+1 b+3 3+13f
    20+10 3b+4 2+1cf 2b+d5 2c+3 2+1df 8 5 3 10 c6+1 11+28 4d+3 b+3 3+310 45+4b 3e+c1 5 1c 3 2+1
    2 b 5 2 2+5 2+3 2 2 2 4 3 2+1 2 2 2 2 2 3 2+1 5 8 5 5 2 b 12+4 4 6 12+33 3+10d 2d+3 65+b
    10+1 10 10 26+a ae+37 1e+c 2d+3 a+6 3+d 7+99 3d9+3 12+2 e+2 78+3 60+5 d+3 2+e d+3 39+7 b+5
    29+7 1f+1 d+3 3+3d 155+b f+1 e+2 b+4 39+6 10+1 c+5 a+6 94 67+405 a6e1+1f 103b+5 df+1 1683+d
    1d32+e 26f+9a1 21f+5e1 134c+4 1061+add4f f1+2fe0f"

/-- The characters that are left out of a name. -/
def ignoredChars : CharSet :=
  CharSet.ofTable "ad 2a2 e10+1 654+1 56+4 7fc 55+4 6+5 10f5 cc9c+f f0 a1 bd00+3 14d0+7
    c2f86+ef"

/-- A run of characters that stand for others. It has `count` characters at equal distances, and
the last character of what they stand for advances with them by the same distance. -/
structure MappedRun where
  first : Nat
  count : Nat
  step : Nat
  target : List Nat

/-- The runs in ascending order, a word for each: the distance of its first character from that
of the run before it; after a plus sign the number of further characters; a star if they are
every second one; after a colon what the first character stands for. -/
def mappingTable : String :=
  "41+19:61 5f:20 8:20,308 2:61 5:20,304 3+1:32 2:20,301 1:3bc 3:20,327 1:31 1:6f 2:31,2044,34
    1:31,2044,32 1:33,2044,34 2+16:e0 18+6:f8 28+17*:101 30:69,307 2:69,6a 1:69,6a 1+1*:135
    5+2*:13a 6:6c,b7 1:6c,b7 1+3*:142 8:2bc,6e 1+16*:14b 2e:ff 1+2*:17a 6:73 2:253 1+1*:183
    4:254 1:188 2+1:256 2:18c 3:1dd 1:259 1:25b 1:192 2:260 1:263 2:269 1:268 1:199 4:26f 1:272
    2:275 1+2*:1a1 6:280 1:1a8 2:283 3:1ad 2:288 1:1b0 2+1:28a 2+1*:1b4 4:292 1:1b9 4:1bd
    8:64,17e 1:64,17e 1:64,17e 1:6c,6a 1:6c,6a 1:6c,6a 1:6e,6a 1:6e,6a 1:6e,6a 1+7*:1ce
    11+8*:1df 13:64,7a 1:64,7a 1:64,7a 1:1f5 2:195 1:1bf 1+13*:1f9 28:19e 2+8*:223 18:2c65 1:23c
    2:19a 1:2c66 3:242 2:180 1:289 1:28c 1+4*:247 6a+1*:68 1:266 2:72 1:279 1:27b 1:281 1:77
    1:79 20:20,306 1:20,307 1:20,30a 1:20,328 1:20,303 1:20,30b 3:263 1:6c 1:73 1:78 1:295
    5c+1:300 3:313 1:308,301 1:3b9 2b+1*:371 4:2b9 2:377 4:20,3b9 4:3b 1:3f3 5:20,301
    1:20,308,301 1:3ac 1:b7 1+2:3ad 4:3cc 2+1:3cd 3+10:3b1 12+8:3c3 2c:3d7 1:3b2 1:3b8 1:3c5
    1:3cd 1:3cb 1:3c6 1:3c0 2+b*:3d9 18:3ba 1:3c1 1:3c3 2:3b8 1:3b5 2:3f8 2:3c3 1:3fb 3+2:37b
    3+f:450 10+1f:430 50+10*:461 2a+1a*:48b 36:4cf 1+6*:4c2 f+2f*:4d1 61+25:561 56:565,582
    ee:627,674 1:648,674 1:6c7,674 1:64a,674 2e0:915,93c 1:916,93c 1:917,93c 1:91c,93c 1:921,93c
    1:922,93c 1:92b,93c 1:92f,93c 7d:9a1,9bc 1:9a2,9bc 2:9af,9bc 54:a32,a3c 3:a38,a3c 23:a16,a3c
    1:a17,a3c 1:a1c,a3c 3:a2b,a3c fe:b21,b3c 1:b22,b3c 2d6:e4d,e32 80:ecd,eb2 29:eab,e99
    1:eab,ea1 2f:f0b 37:f42,fb7 a:f4c,fb7 5:f51,fb7 5:f56,fb7 5:f5b,fb7 d:f40,fb5 a:f71,f72
    2:f71,f74 1:fb2,f80 1:fb2,f71,f80 1:fb3,f80 1:fb3,f71,f80 8:f71,f80 12:f92,fb7 a:f9c,fb7
    5:fa1,fb7 5:fa6,fb7 5:fab,fb7 d:f90,fb5 e7+25:2d00 27:2d27 6:2d2d 2f:10dc 2fc+5:13f0 888:432
    1:434 1:43e 1+1:441 2:442 1:44a 1:463 1:a64b 1:1c8a 7+2a:10d0 2d+2:10fd 6f:61 1:e6 1+1*:62
    3+4*:65 1:1dd 2+3*:68 8:6f 1:223 1:70 1:72 1+1:74 2:77 1:61 1+1:250 2:1d02 1:62 1+1:64 2:259
    1+1:25b 2:67 2:6b 1+1*:6d 1:14b 2:254 1+1:1d16 2:70 1+1:74 2:1d1d 1:26f 1:76 1:1d25 1+2:3b2
    3+1:3c6 2:69 1:72 1+1:75 2+1:3b2 2:3c1 1+1:3c6 f:43d 23:252 1:63 1:255 1:f0 1:25c 1:66 1:25f
    1:261 1:265 1+2:268 3:1d7b 1:29d 1:26d 1:1d85 1:29f 1:271 1:270 1+3:272 4:278 1+1:282 2:1ab
    1+1:289 2:1d1c 1+1:28b 2:7a 1+2:290 3:3b8 41+4a*:1e01 9a:61,2be 1:1e61 3:df 2+2f*:1ea1
    68+7:1f00 10+5:1f10 10+7:1f20 10+7:1f30 10+5:1f40 11+3*:1f51 f+7:1f60 9:3ac 2:3ad 2:3ae
    2:3af 2:3cc 2:3cd 2:3ce 3:1f00,3b9 1:1f01,3b9 1:1f02,3b9 1:1f03,3b9 1:1f04,3b9 1:1f05,3b9
    1:1f06,3b9 1:1f07,3b9 1:1f00,3b9 1:1f01,3b9 1:1f02,3b9 1:1f03,3b9 1:1f04,3b9 1:1f05,3b9
    1:1f06,3b9 1:1f07,3b9 1:1f20,3b9 1:1f21,3b9 1:1f22,3b9 1:1f23,3b9 1:1f24,3b9 1:1f25,3b9
    1:1f26,3b9 1:1f27,3b9 1:1f20,3b9 1:1f21,3b9 1:1f22,3b9 1:1f23,3b9 1:1f24,3b9 1:1f25,3b9
    1:1f26,3b9 1:1f27,3b9 1:1f60,3b9 1:1f61,3b9 1:1f62,3b9 1:1f63,3b9 1:1f64,3b9 1:1f65,3b9
    1:1f66,3b9 1:1f67,3b9 1:1f60,3b9 1:1f61,3b9 1:1f62,3b9 1:1f63,3b9 1:1f64,3b9 1:1f65,3b9
    1:1f66,3b9 1:1f67,3b9 3:1f70,3b9 1:3b1,3b9 1:3ac,3b9 3:1fb6,3b9 1+1:1fb0 2:1f70 1:3ac
    1:3b1,3b9 1:20,313 1:3b9 1:20,313 1:20,342 1:20,308,342 1:1f74,3b9 1:3b7,3b9 1:3ae,3b9
    3:1fc6,3b9 1+1*:1f72 1:3ad 2:3ae 1:3b7,3b9 1:20,313,300 1:20,313,301 1:20,313,342 4:390
    5+1:1fd0 2:1f76 1:3af 2:20,314,300 1:20,314,301 1:20,314,342 4:3b0 5+1:1fe0 2:1f7a 1:3cd
    1:1fe5 1:20,308,300 1:20,308,301 1:60 3:1f7c,3b9 1:3c9,3b9 1:3ce,3b9 3:1ff6,3b9 1:1f78
    1+1*:3cc 1:1f7c 2:3c9,3b9 1:20,301 1:20,314 2:20 1:20 1:20 1:20 1:20 1:20 1:20 1:20 1:20
    1:20 1:20 7:2010 6:20,333 18:20 4:2032,2032 1:2032,2032,2032 2:2035,2035 1:2035,2035,2035
    5:21,21 2:20,305 9:3f,3f 1:3f,21 1:21,3f e:2032,2032,2032,2032 8:20 11:30 1:69 3+5:34 6:2b
    1:2212 1:3d 1+1:28 2:6e 1+9:30 a:2b 1:2212 1:3d 1+1:28 3:61 1:65 1:6f 1:78 1:259 1:68 1+3:6b
    4:70 1+1:73 d:72,73 58:61,2f,63 1:61,2f,73 1:63 1:b0,63 2:63,2f,6f 1:63,2f,75 1:25b 2:b0,66
    1+1:67 2:68 1:68 1:68 1:127 1:69 1:69 1:6c 1+1*:6c 3:6e,6f 3+2:70 3:72 1:72 3:73,6d
    1:74,65,6c 1:74,6d 2:7a 2:3c9 2:7a 2:6b 1:e5 1+1:62 3:65 1+1:65 2:214e 1:6d 1:6f 1+3:5d0
    4:69 2:66,61,78 1:3c0 1:3b3 1:3b3 1:3c0 1:2211 5:64 1+1:64 2+1:69 8:31,2044,37 1:31,2044,39
    1:31,2044,31,30 1:31,2044,33 1:32,2044,33 1:31,2044,35 1:32,2044,35 1:33,2044,35
    1:34,2044,35 1:31,2044,36 1:35,2044,36 1:31,2044,38 1:33,2044,38 1:35,2044,38 1:37,2044,38
    1:31,2044 1:69 1:69,69 1:69,69,69 1:69,76 1:76 1:76,69 1:76,69,69 1:76,69,69,69 1:69,78 1:78
    1:78,69 1:78,69,69 1:6c 1+1:63 2:6d 1:69 1:69,69 1:69,69,69 1:69,76 1:76 1:76,69 1:76,69,69
    1:76,69,69,69 1:69,78 1:78 1:78,69 1:78,69,69 1:6c 1+1:63 2:6d 4:2184 6:30,2044,33
    a3:222b,222b 1:222b,222b,222b 2:222e,222e 1:222e,222e,222e f9+1:3008 137+8:31 9:31,30
    1:31,31 1:31,32 1:31,33 1:31,34 1:31,35 1:31,36 1:31,37 1:31,38 1:31,39 1:32,30 1:28,31,29
    1:28,32,29 1:28,33,29 1:28,34,29 1:28,35,29 1:28,36,29 1:28,37,29 1:28,38,29 1:28,39,29
    1:28,31,30,29 1:28,31,31,29 1:28,31,32,29 1:28,31,33,29 1:28,31,34,29 1:28,31,35,29
    1:28,31,36,29 1:28,31,37,29 1:28,31,38,29 1:28,31,39,29 1:28,32,30,29 15:28,61,29 1:28,62,29
    1:28,63,29 1:28,64,29 1:28,65,29 1:28,66,29 1:28,67,29 1:28,68,29 1:28,69,29 1:28,6a,29
    1:28,6b,29 1:28,6c,29 1:28,6d,29 1:28,6e,29 1:28,6f,29 1:28,70,29 1:28,71,29 1:28,72,29
    1:28,73,29 1:28,74,29 1:28,75,29 1:28,76,29 1:28,77,29 1:28,78,29 1:28,79,29 1:28,7a,29
    1+19:61 1a+19:61 1a:30 522:222b,222b,222b,222b 68:3a,3a,3d 1:3d,3d 1:3d,3d,3d 66:2add,338
    124+2f:2c30 60:2c61 2:26b 1:1d7d 1:27d 3+2*:2c68 6:251 1:271 1:250 1:252 2:2c73 3:2c76 7:6a
    1:76 1+1:23f 2+31*:2c81 6b+1*:2cec 7:2cf3 7d:2d61 130:6bcd 54:9f9f d:4e00 1:4e28 1:4e36
    1:4e3f 1:4e59 1:4e85 1:4e8c 1:4ea0 1:4eba 1:513f 1:5165 1:516b 1:5182 1:5196 1:51ab 1:51e0
    1:51f5 1:5200 1:529b 1:52f9 1:5315 1:531a 1:5338 1:5341 1:535c 1:5369 1:5382 1:53b6 1:53c8
    1:53e3 1:56d7 1:571f 1:58eb 1:5902 1:590a 1:5915 1:5927 1:5973 1:5b50 1:5b80 1:5bf8 1:5c0f
    1:5c22 1:5c38 1:5c6e 1:5c71 1:5ddb 1:5de5 1:5df1 1:5dfe 1:5e72 1:5e7a 1:5e7f 1:5ef4 1:5efe
    1:5f0b 1:5f13 1:5f50 1:5f61 1:5f73 1:5fc3 1:6208 1:6236 1:624b 1:652f 1:6534 1:6587 1:6597
    1:65a4 1:65b9 1:65e0 1:65e5 1:66f0 1:6708 1:6728 1:6b20 1:6b62 1:6b79 1:6bb3 1:6bcb 1:6bd4
    1:6bdb 1:6c0f 1:6c14 1:6c34 1:706b 1:722a 1:7236 1:723b 1:723f 1:7247 1:7259 1:725b 1:72ac
    1:7384 1:7389 1:74dc 1:74e6 1:7518 1:751f 1:7528 1:7530 1:758b 1:7592 1:7676 1:767d 1:76ae
    1:76bf 1:76ee 1:77db 1:77e2 1:77f3 1:793a 1:79b8 1:79be 1:7a74 1:7acb 1:7af9 1:7c73 1:7cf8
    1:7f36 1:7f51 1:7f8a 1:7fbd 1:8001 1:800c 1:8012 1:8033 1:807f 1:8089 1:81e3 1:81ea 1:81f3
    1:81fc 1:820c 1:821b 1:821f 1:826e 1:8272 1:8278 1:864d 1:866b 1:8840 1:884c 1:8863 1:897e
    1:898b 1:89d2 1:8a00 1:8c37 1:8c46 1:8c55 1:8c78 1:8c9d 1:8d64 1:8d70 1:8db3 1:8eab 1:8eca
    1:8f9b 1:8fb0 1:8fb5 1:9091 1:9149 1:91c6 1:91cc 1:91d1 1:9577 1:9580 1:961c 1:96b6 1:96b9
    1:96e8 1:9751 1:975e 1:9762 1:9769 1:97cb 1:97ed 1:97f3 1:9801 1:98a8 1:98db 1:98df 1:9996
    1:9999 1:99ac 1:9aa8 1:9ad8 1:9adf 1:9b25 1:9b2f 1:9b32 1:9b3c 1:9b5a 1:9ce5 1:9e75 1:9e7f
    1:9ea5 1:9ebb 1:9ec3 1:9ecd 1:9ed1 1:9ef9 1:9efd 1:9f0e 1:9f13 1:9f20 1:9f3b 1:9f4a 1:9f52
    1:9f8d 1:9f9c 1:9fa0 2b:20 2:2e 34:3012 2:5341 1+1:5344 62:20,3099 1:20,309a 3:3088,308a
    60:30b3,30c8 32+1:1100 2+1*:11aa 1:1102 2:11ad 1+2:1103 3+5:11b0 6:111a 1+2:1106 3:1121
    1+9:1109 a+14:1161 16+1:1114 2+1:11c7 2:11cc 1:11ce 1:11d3 1:11d7 1:11d9 1:111c 1:11dd
    1:11df 1+1:111d 2:1120 1+1:1122 2:1127 1:1129 1+4:112b 5:1132 1:1136 1:1140 1:1147 1:114c
    1+1:11f1 2+2:1157 3+1:1184 2:1188 1+1:1191 2:1194 1:119e 1:11a1 4:4e00 1:4e8c 1:4e09 1:56db
    1:4e0a 1:4e2d 1:4e0b 1:7532 1:4e59 1:4e19 1:4e01 1:5929 1:5730 1:4eba 61:28,1100,29
    1:28,1102,29 1:28,1103,29 1:28,1105,29 1:28,1106,29 1:28,1107,29 1:28,1109,29 1:28,110b,29
    1:28,110c,29 1:28,110e,29 1:28,110f,29 1:28,1110,29 1:28,1111,29 1:28,1112,29 1:28,ac00,29
    1:28,b098,29 1:28,b2e4,29 1:28,b77c,29 1:28,b9c8,29 1:28,bc14,29 1:28,c0ac,29 1:28,c544,29
    1:28,c790,29 1:28,cc28,29 1:28,ce74,29 1:28,d0c0,29 1:28,d30c,29 1:28,d558,29 1:28,c8fc,29
    1:28,c624,c804,29 1:28,c624,d6c4,29 2:28,4e00,29 1:28,4e8c,29 1:28,4e09,29 1:28,56db,29
    1:28,4e94,29 1:28,516d,29 1:28,4e03,29 1:28,516b,29 1:28,4e5d,29 1:28,5341,29 1:28,6708,29
    1:28,706b,29 1:28,6c34,29 1:28,6728,29 1:28,91d1,29 1:28,571f,29 1:28,65e5,29 1:28,682a,29
    1:28,6709,29 1:28,793e,29 1:28,540d,29 1:28,7279,29 1:28,8ca1,29 1:28,795d,29 1:28,52b4,29
    1:28,4ee3,29 1:28,547c,29 1:28,5b66,29 1:28,76e3,29 1:28,4f01,29 1:28,8cc7,29 1:28,5354,29
    1:28,796d,29 1:28,4f11,29 1:28,81ea,29 1:28,81f3,29 1:554f 1:5e7c 1:6587 1:7b8f 9:70,74,65
    1:32,31 1:32,32 1:32,33 1:32,34 1:32,35 1:32,36 1:32,37 1:32,38 1:32,39 1:33,30 1:33,31
    1:33,32 1:33,33 1:33,34 1:33,35 1:1100 1+1:1102 2+2:1105 3:1109 1+1:110b 2+4:110e 5:ac00
    1:b098 1:b2e4 1:b77c 1:b9c8 1:bc14 1:c0ac 1:c544 1:c790 1:cc28 1:ce74 1:d0c0 1:d30c 1:d558
    1:cc38,ace0 1:c8fc,c758 1:c6b0 2:4e00 1:4e8c 1:4e09 1:56db 1:4e94 1:516d 1:4e03 1:516b
    1:4e5d 1:5341 1:6708 1:706b 1:6c34 1:6728 1:91d1 1:571f 1:65e5 1:682a 1:6709 1:793e 1:540d
    1:7279 1:8ca1 1:795d 1:52b4 1:79d8 1:7537 1:5973 1:9069 1:512a 1:5370 1:6ce8 1:9805 1:4f11
    1:5199 1:6b63 1:4e0a 1:4e2d 1:4e0b 1:5de6 1:53f3 1:533b 1:5b97 1:5b66 1:76e3 1:4f01 1:8cc7
    1:5354 1:591c 1:33,36 1:33,37 1:33,38 1:33,39 1:34,30 1:34,31 1:34,32 1:34,33 1:34,34
    1:34,35 1:34,36 1:34,37 1:34,38 1:34,39 1:35,30 1:31,6708 1:32,6708 1:33,6708 1:34,6708
    1:35,6708 1:36,6708 1:37,6708 1:38,6708 1:39,6708 1:31,30,6708 1:31,31,6708 1:31,32,6708
    1:68,67 1:65,72,67 1:65,76 1:6c,74,64 1:30a2 1:30a4 1:30a6 1:30a8 1+1:30aa 2:30ad 1:30af
    1:30b1 1:30b3 1:30b5 1:30b7 1:30b9 1:30bb 1:30bd 1:30bf 1:30c1 1:30c4 1:30c6 1:30c8 1+5:30ca
    6:30d2 1:30d5 1:30d8 1:30db 1+4:30de 5:30e4 1:30e6 1+5:30e8 6+3:30ef 4:4ee4,548c
    1:30a2,30d1,30fc,30c8 1:30a2,30eb,30d5,30a1 1:30a2,30f3,30da,30a2 1:30a2,30fc,30eb
    1:30a4,30cb,30f3,30b0 1:30a4,30f3,30c1 1:30a6,30a9,30f3 1:30a8,30b9,30af,30fc,30c9
    1:30a8,30fc,30ab,30fc 1:30aa,30f3,30b9 1:30aa,30fc,30e0 1:30ab,30a4,30ea
    1:30ab,30e9,30c3,30c8 1:30ab,30ed,30ea,30fc 1:30ac,30ed,30f3 1:30ac,30f3,30de 1:30ae,30ac
    1:30ae,30cb,30fc 1:30ad,30e5,30ea,30fc 1:30ae,30eb,30c0,30fc 1:30ad,30ed
    1:30ad,30ed,30b0,30e9,30e0 1:30ad,30ed,30e1,30fc,30c8,30eb 1:30ad,30ed,30ef,30c3,30c8
    1:30b0,30e9,30e0 1:30b0,30e9,30e0,30c8,30f3 1:30af,30eb,30bc,30a4,30ed 1:30af,30ed,30fc,30cd
    1:30b1,30fc,30b9 1:30b3,30eb,30ca 1:30b3,30fc,30dd 1:30b5,30a4,30af,30eb
    1:30b5,30f3,30c1,30fc,30e0 1:30b7,30ea,30f3,30b0 1:30bb,30f3,30c1 1:30bb,30f3,30c8
    1:30c0,30fc,30b9 1:30c7,30b7 1:30c9,30eb 1:30c8,30f3 1:30ca,30ce 1:30ce,30c3,30c8
    1:30cf,30a4,30c4 1:30d1,30fc,30bb,30f3,30c8 1:30d1,30fc,30c4 1:30d0,30fc,30ec,30eb
    1:30d4,30a2,30b9,30c8,30eb 1:30d4,30af,30eb 1:30d4,30b3 1:30d3,30eb
    1:30d5,30a1,30e9,30c3,30c9 1:30d5,30a3,30fc,30c8 1:30d6,30c3,30b7,30a7,30eb 1:30d5,30e9,30f3
    1:30d8,30af,30bf,30fc,30eb 1:30da,30bd 1:30da,30cb,30d2 1:30d8,30eb,30c4 1:30da,30f3,30b9
    1:30da,30fc,30b8 1:30d9,30fc,30bf 1:30dd,30a4,30f3,30c8 1:30dc,30eb,30c8 1:30db,30f3
    1:30dd,30f3,30c9 1:30db,30fc,30eb 1:30db,30fc,30f3 1:30de,30a4,30af,30ed 1:30de,30a4,30eb
    1:30de,30c3,30cf 1:30de,30eb,30af 1:30de,30f3,30b7,30e7,30f3 1:30df,30af,30ed,30f3
    1:30df,30ea 1:30df,30ea,30d0,30fc,30eb 1:30e1,30ac 1:30e1,30ac,30c8,30f3
    1:30e1,30fc,30c8,30eb 1:30e4,30fc,30c9 1:30e4,30fc,30eb 1:30e6,30a2,30f3
    1:30ea,30c3,30c8,30eb 1:30ea,30e9 1:30eb,30d4,30fc 1:30eb,30fc,30d6,30eb 1:30ec,30e0
    1:30ec,30f3,30c8,30b2,30f3 1:30ef,30c3,30c8 1:30,70b9 1:31,70b9 1:32,70b9 1:33,70b9
    1:34,70b9 1:35,70b9 1:36,70b9 1:37,70b9 1:38,70b9 1:39,70b9 1:31,30,70b9 1:31,31,70b9
    1:31,32,70b9 1:31,33,70b9 1:31,34,70b9 1:31,35,70b9 1:31,36,70b9 1:31,37,70b9 1:31,38,70b9
    1:31,39,70b9 1:32,30,70b9 1:32,31,70b9 1:32,32,70b9 1:32,33,70b9 1:32,34,70b9 1:68,70,61
    1:64,61 1:61,75 1:62,61,72 1:6f,76 1:70,63 1:64,6d 1:64,6d,32 1:64,6d,33 1:69,75 1:5e73,6210
    1:662d,548c 1:5927,6b63 1:660e,6cbb 1:682a,5f0f,4f1a,793e 1:70,61 1:6e,61 1:3bc,61 1:6d,61
    1:6b,61 1:6b,62 1:6d,62 1:67,62 1:63,61,6c 1:6b,63,61,6c 1:70,66 1:6e,66 1:3bc,66 1:3bc,67
    1:6d,67 1:6b,67 1:68,7a 1:6b,68,7a 1:6d,68,7a 1:67,68,7a 1:74,68,7a 1:3bc,6c 1:6d,6c 1:64,6c
    1:6b,6c 1:66,6d 1:6e,6d 1:3bc,6d 1:6d,6d 1:63,6d 1:6b,6d 1:6d,6d,32 1:63,6d,32 1:6d,32
    1:6b,6d,32 1:6d,6d,33 1:63,6d,33 1:6d,33 1:6b,6d,33 1:6d,2215,73 1:6d,2215,73,32 1:70,61
    1:6b,70,61 1:6d,70,61 1:67,70,61 1:72,61,64 1:72,61,64,2215,73 1:72,61,64,2215,73,32 1:70,73
    1:6e,73 1:3bc,73 1:6d,73 1:70,76 1:6e,76 1:3bc,76 1:6d,76 1:6b,76 1:6d,76 1:70,77 1:6e,77
    1:3bc,77 1:6d,77 1:6b,77 1:6d,77 1:6b,3c9 1:6d,3c9 2:62,71 1:63,63 1:63,64 1:63,2215,6b,67
    2:64,62 1:67,79 1:68,61 1:68,70 1:69,6e 1:6b,6b 1:6b,6d 1:6b,74 1:6c,6d 1:6c,6e 1:6c,6f,67
    1:6c,78 1:6d,62 1:6d,69,6c 1:6d,6f,6c 1:70,68 2:70,70,6d 1:70,72 1:73,72 1:73,76 1:77,62
    1:76,2215,6d 1:61,2215,6d 1:31,65e5 1:32,65e5 1:33,65e5 1:34,65e5 1:35,65e5 1:36,65e5
    1:37,65e5 1:38,65e5 1:39,65e5 1:31,30,65e5 1:31,31,65e5 1:31,32,65e5 1:31,33,65e5
    1:31,34,65e5 1:31,35,65e5 1:31,36,65e5 1:31,37,65e5 1:31,38,65e5 1:31,39,65e5 1:32,30,65e5
    1:32,31,65e5 1:32,32,65e5 1:32,33,65e5 1:32,34,65e5 1:32,35,65e5 1:32,36,65e5 1:32,37,65e5
    1:32,38,65e5 1:32,39,65e5 1:33,30,65e5 1:33,31,65e5 1:67,61,6c 7241+16*:a641 40+d*:a681
    1c:44a 1:44c 85+6*:a723 10+1e*:a733 3e:a76f 9+1*:a77a 4:1d79 1+4*:a77f d:a78c 2:265
    3+1*:a791 6+9*:a797 14:266 1:25c 1:261 1:26c 1:26a 2:29e 1:287 1:29d 1:ab53 1+7*:a7b5
    10:a794 1:282 1:1d8e 1+1*:a7c8 4:264 1:a7cd 4:a7d1 6+2*:a7d7 6:19b 16:63 1:66 1:71 1:a7f6
    3:127 1:153 363:a727 1:ab37 1:26b 1:ab52 a:28d 7+4f:13a0 4d90:8c48 1:66f4 1:8eca 1:8cc8
    1:6ed1 1:4e32 1:53e5 1:9f9c 1:9f9c 1:5951 1:91d1 1:5587 1:5948 1:61f6 1:7669 1:7f85 1:863f
    1:87ba 1:88f8 1:908f 1:6a02 1:6d1b 1:70d9 1:73de 1:843d 1:916a 1:99f1 1:4e82 1:5375 1:6b04
    1:721b 1:862d 1:9e1e 1:5d50 1:6feb 1:85cd 1:8964 1:62c9 1:81d8 1:881f 1:5eca 1:6717 1:6d6a
    1:72fc 1:90ce 1:4f86 1:51b7 1:52de 1:64c4 1:6ad3 1:7210 1:76e7 1:8001 1:8606 1:865c 1:8def
    1:9732 1:9b6f 1:9dfa 1:788c 1:797f 1:7da0 1:83c9 1:9304 1:9e7f 1:8ad6 1:58df 1:5f04 1:7c60
    1:807e 1:7262 1:78ca 1:8cc2 1:96f7 1:58d8 1:5c62 1:6a13 1:6dda 1:6f0f 1:7d2f 1:7e37 1:964b
    1:52d2 1:808b 1:51dc 1:51cc 1:7a1c 1:7dbe 1:83f1 1:9675 1:8b80 1:62cf 1:6a02 1:8afe 1:4e39
    1:5be7 1:6012 1:7387 1:7570 1:5317 1:78fb 1:4fbf 1:5fa9 1:4e0d 1:6ccc 1:6578 1:7d22 1:53c3
    1:585e 1:7701 1:8449 1:8aaa 1:6bba 1:8fb0 1:6c88 1:62fe 1:82e5 1:63a0 1:7565 1:4eae 1:5169
    1:51c9 1:6881 1:7ce7 1:826f 1:8ad2 1:91cf 1:52f5 1:5442 1:5973 1:5eec 1:65c5 1:6ffe 1:792a
    1:95ad 1:9a6a 1:9e97 1:9ece 1:529b 1:66c6 1:6b77 1:8f62 1:5e74 1:6190 1:6200 1:649a 1:6f23
    1:7149 1:7489 1:79ca 1:7df4 1:806f 1:8f26 1:84ee 1:9023 1:934a 1:5217 1:52a3 1:54bd 1:70c8
    1:88c2 1:8aaa 1:5ec9 1:5ff5 1:637b 1:6bae 1:7c3e 1:7375 1:4ee4 1:56f9 1:5be7 1:5dba 1:601c
    1:73b2 1:7469 1:7f9a 1:8046 1:9234 1:96f6 1:9748 1:9818 1:4f8b 1:79ae 1:91b4 1:96b8 1:60e1
    1:4e86 1:50da 1:5bee 1:5c3f 1:6599 1:6a02 1:71ce 1:7642 1:84fc 1:907c 1:9f8d 1:6688 1:962e
    1:5289 1:677b 1:67f3 1:6d41 1:6e9c 1:7409 1:7559 1:786b 1:7d10 1:985e 1:516d 1:622e 1:9678
    1:502b 1:5d19 1:6dea 1:8f2a 1:5f8b 1:6144 1:6817 1:7387 1:9686 1:5229 1:540f 1:5c65 1:6613
    1:674e 1:68a8 1:6ce5 1:7406 1:75e2 1:7f79 1:88cf 1:88e1 1:91cc 1:96e2 1:533f 1:6eba 1:541d
    1:71d0 1:7498 1:85fa 1:96a3 1:9c57 1:9e9f 1:6797 1:6dcb 1:81e8 1:7acb 1:7b20 1:7c92 1:72c0
    1:7099 1:8b58 1:4ec0 1:8336 1:523a 1:5207 1:5ea6 1:62d3 1:7cd6 1:5b85 1:6d1e 1:66b4 1:8f3b
    1:884c 1:964d 1:898b 1:5ed3 1:5140 1:55c0 3:585a 2:6674 3:51de 1:732a 1:76ca 1:793c 1:795e
    1:7965 1:798f 1:9756 1:7cbe 1:7fbd 2:8612 2:8af8 3:9038 1:90fd 4:98ef 1:98fc 1:9928 1:9db4
    1:90de 1:96b7 1:4fae 1:50e7 1:514d 1:52c9 1:52e4 1:5351 1:559d 1:5606 1:5668 1:5840 1:58a8
    1:5c64 1:5c6e 1:6094 1:6168 1:618e 1:61f2 1:654f 1:65e2 1:6691 1:6885 1:6d77 1:6e1a 1:6f22
    1:716e 1:722b 1:7422 1:7891 1:793e 1:7949 1:7948 1:7950 1:7956 1:795d 1+1:798d 2:7a40 1:7a81
    1:7bc0 1:7df4 1:7e09 1:7e41 1:7f72 1:8005 1:81ed 1:8279 1:8279 1:8457 1:8910 1:8996 1:8b01
    1:8b39 1:8cd3 1:8d08 1:8fb6 1:9038 1:96e3 1:97ff 1:983b 1:6075 1:242ee 1:8218 3:4e26 1:51b5
    1:5168 1:4f80 1:5145 1:5180 1:52c7 1:52fa 1:559d 1:5555 1:5599 1:55e2 1:585a 1:58b3 1:5944
    1:5954 1:5a62 1:5b28 1:5ed2 1:5ed9 1:5f69 1:5fad 1:60d8 1:614e 1:6108 1:618e 1:6160 1:61f2
    1:6234 1:63c4 1:641c 1:6452 1:6556 1:6674 1:6717 1:671b 1:6756 1:6b79 1:6bba 1:6d41 1:6edb
    1:6ecb 1:6f22 1:701e 1:716e 1:77a7 1:7235 1:72af 1:732a 1:7471 1:7506 1:753b 1:761d 1:761f
    1:76ca 1:76db 1:76f4 1:774a 1:7740 1:78cc 1:7ab1 1:7bc0 1:7c7b 1:7d5b 1:7df4 1:7f3e 1:8005
    1:8352 1:83ef 1:8779 1:8941 1:8986 1:8996 1:8abf 1:8af8 1:8acb 1:8b01 1:8afe 1:8aed 1:8b39
    1:8b8a 1:8d08 1:8f38 1:9072 1:9199 1:9276 1:967c 1:96e3 1:9756 1:97db 1:97ff 1:980b 1:983b
    1:9b12 1:9f9c 1:2284a 1:22844 1:233d5 1:3b9d 1:4018 1:4039 1:25249 1:25cd0 1:27ed3 1:9f43
    1:9f8e 27:66,66 1:66,69 1:66,6c 1:66,66,69 1:66,66,6c 1:73,74 1:73,74 d:574,576 1:574,565
    1:574,56b 1:57e,576 1:574,56d 6:5d9,5b4 2:5f2,5b7 1:5e2 1:5d0 1+1:5d3 2+2:5db 3:5e8 1:5ea
    1:2b 1:5e9,5c1 1:5e9,5c2 1:5e9,5bc,5c1 1:5e9,5bc,5c2 1:5d0,5b7 1:5d0,5b8 1:5d0,5bc 1:5d1,5bc
    1:5d2,5bc 1:5d3,5bc 1:5d4,5bc 1:5d5,5bc 1:5d6,5bc 2:5d8,5bc 1:5d9,5bc 1:5da,5bc 1:5db,5bc
    1:5dc,5bc 2:5de,5bc 2:5e0,5bc 1:5e1,5bc 2:5e3,5bc 1:5e4,5bc 2:5e6,5bc 1:5e7,5bc 1:5e8,5bc
    1:5e9,5bc 1:5ea,5bc 1:5d5,5b9 1:5d1,5bf 1:5db,5bf 1:5e4,5bf 1:5d0,5dc 1:671 1:671 1:67b
    1:67b 1:67b 1:67b 1:67e 1:67e 1+1*:67e 1+1*:67e 3:680 1:680 1:67a 1:67a 1:67a 1:67a 1:67f
    1:67f 1:67f 1:67f 1:679 1:679 1:679 1:679 1:6a4 1:6a4 1+1*:6a4 1+1*:6a4 3:6a6 1:6a6 1:684
    1:684 1:684 1:684 1:683 1:683 1:683 1:683 1:686 1:686 1:686 1+1:686 2:687 1:687 1:687 1:68d
    1:68d 1+1*:68c 1+1*:68c 3:688 1:688 1:698 1:698 1:691 1:691 1:6a9 1:6a9 1:6a9 1:6a9 1:6af
    1:6af 1:6af 1:6af 1:6b3 1:6b3 1:6b3 1:6b3 1:6b1 1:6b1 1:6b1 1:6b1 1:6ba 1+1:6ba 2:6bb 1:6bb
    1:6bb 1:6c0 1+1:6c0 2:6c1 1:6c1 1:6c1 1:6be 1:6be 1:6be 1:6be 1:6d2 1+1:6d2 2:6d3 22:6ad
    1:6ad 1:6ad 1:6ad 1:6c7 1:6c7 1+1*:6c6 1+1*:6c6 3:6c7,674 1:6cb 1:6cb 1:6c5 1:6c5 1:6c9
    1:6c9 1:6d0 1:6d0 1:6d0 1:6d0 1:649 1:649 1:626,627 1:626,627 1:626,6d5 1:626,6d5 1:626,648
    1:626,648 1:626,6c7 1:626,6c7 1:626,6c6 1:626,6c6 1:626,6c8 1:626,6c8 1:626,6d0 1:626,6d0
    1:626,6d0 1:626,649 1:626,649 1:626,649 1:6cc 1:6cc 1:6cc 1:6cc 1:626,62c 1:626,62d
    1:626,645 1:626,649 1:626,64a 1:628,62c 1:628,62d 1:628,62e 1:628,645 1:628,649 1:628,64a
    1:62a,62c 1:62a,62d 1:62a,62e 1:62a,645 1:62a,649 1:62a,64a 1:62b,62c 1:62b,645 1:62b,649
    1:62b,64a 1:62c,62d 1:62c,645 1:62d,62c 1:62d,645 1:62e,62c 1:62e,62d 1:62e,645 1:633,62c
    1:633,62d 1:633,62e 1:633,645 1:635,62d 1:635,645 1:636,62c 1:636,62d 1:636,62e 1:636,645
    1:637,62d 1:637,645 1:638,645 1:639,62c 1:639,645 1:63a,62c 1:63a,645 1:641,62c 1:641,62d
    1:641,62e 1:641,645 1:641,649 1:641,64a 1:642,62d 1:642,645 1:642,649 1:642,64a 1:643,627
    1:643,62c 1:643,62d 1:643,62e 1:643,644 1:643,645 1:643,649 1:643,64a 1:644,62c 1:644,62d
    1:644,62e 1:644,645 1:644,649 1:644,64a 1:645,62c 1:645,62d 1:645,62e 1:645,645 1:645,649
    1:645,64a 1:646,62c 1:646,62d 1:646,62e 1:646,645 1:646,649 1:646,64a 1:647,62c 1:647,645
    1:647,649 1:647,64a 1:64a,62c 1:64a,62d 1:64a,62e 1:64a,645 1:64a,649 1:64a,64a 1:630,670
    1:631,670 1:649,670 1:20,64c,651 1:20,64d,651 1:20,64e,651 1:20,64f,651 1:20,650,651
    1:20,651,670 1:626,631 1:626,632 1:626,645 1:626,646 1:626,649 1:626,64a 1:628,631 1:628,632
    1:628,645 1:628,646 1:628,649 1:628,64a 1:62a,631 1:62a,632 1:62a,645 1:62a,646 1:62a,649
    1:62a,64a 1:62b,631 1:62b,632 1:62b,645 1:62b,646 1:62b,649 1:62b,64a 1:641,649 1:641,64a
    1:642,649 1:642,64a 1:643,627 1:643,644 1:643,645 1:643,649 1:643,64a 1:644,645 1:644,649
    1:644,64a 1:645,627 1:645,645 1:646,631 1:646,632 1:646,645 1:646,646 1:646,649 1:646,64a
    1:649,670 1:64a,631 1:64a,632 1:64a,645 1:64a,646 1:64a,649 1:64a,64a 1:626,62c 1:626,62d
    1:626,62e 1:626,645 1:626,647 1:628,62c 1:628,62d 1:628,62e 1:628,645 1:628,647 1:62a,62c
    1:62a,62d 1:62a,62e 1:62a,645 1:62a,647 1:62b,645 1:62c,62d 1:62c,645 1:62d,62c 1:62d,645
    1:62e,62c 1:62e,645 1:633,62c 1:633,62d 1:633,62e 1:633,645 1:635,62d 1:635,62e 1:635,645
    1:636,62c 1:636,62d 1:636,62e 1:636,645 1:637,62d 1:638,645 1:639,62c 1:639,645 1:63a,62c
    1:63a,645 1:641,62c 1:641,62d 1:641,62e 1:641,645 1:642,62d 1:642,645 1:643,62c 1:643,62d
    1:643,62e 1:643,644 1:643,645 1:644,62c 1:644,62d 1:644,62e 1:644,645 1:644,647 1:645,62c
    1:645,62d 1:645,62e 1:645,645 1:646,62c 1:646,62d 1:646,62e 1:646,645 1:646,647 1:647,62c
    1:647,645 1:647,670 1:64a,62c 1:64a,62d 1:64a,62e 1:64a,645 1:64a,647 1:626,645 1:626,647
    1:628,645 1:628,647 1:62a,645 1:62a,647 1:62b,645 1:62b,647 1:633,645 1:633,647 1:634,645
    1:634,647 1:643,644 1:643,645 1:644,645 1:646,645 1:646,647 1:64a,645 1:64a,647
    1:640,64e,651 1:640,64f,651 1:640,650,651 1:637,649 1:637,64a 1:639,649 1:639,64a 1:63a,649
    1:63a,64a 1:633,649 1:633,64a 1:634,649 1:634,64a 1:62d,649 1:62d,64a 1:62c,649 1:62c,64a
    1:62e,649 1:62e,64a 1:635,649 1:635,64a 1:636,649 1:636,64a 1:634,62c 1:634,62d 1:634,62e
    1:634,645 1:634,631 1:633,631 1:635,631 1:636,631 1:637,649 1:637,64a 1:639,649 1:639,64a
    1:63a,649 1:63a,64a 1:633,649 1:633,64a 1:634,649 1:634,64a 1:62d,649 1:62d,64a 1:62c,649
    1:62c,64a 1:62e,649 1:62e,64a 1:635,649 1:635,64a 1:636,649 1:636,64a 1:634,62c 1:634,62d
    1:634,62e 1:634,645 1:634,631 1:633,631 1:635,631 1:636,631 1:634,62c 1:634,62d 1:634,62e
    1:634,645 1:633,647 1:634,647 1:637,645 1:633,62c 1:633,62d 1:633,62e 1:634,62c 1:634,62d
    1:634,62e 1:637,645 1:638,645 1:627,64b 1:627,64b 13:62a,62c,645 1:62a,62d,62c 1:62a,62d,62c
    1:62a,62d,645 1:62a,62e,645 1:62a,645,62c 1:62a,645,62d 1:62a,645,62e 1:62c,645,62d
    1:62c,645,62d 1:62d,645,64a 1:62d,645,649 1:633,62d,62c 1:633,62c,62d 1:633,62c,649
    1:633,645,62d 1:633,645,62d 1:633,645,62c 1:633,645,645 1:633,645,645 1:635,62d,62d
    1:635,62d,62d 1:635,645,645 1:634,62d,645 1:634,62d,645 1:634,62c,64a 1:634,645,62e
    1:634,645,62e 1:634,645,645 1:634,645,645 1:636,62d,649 1:636,62e,645 1:636,62e,645
    1:637,645,62d 1:637,645,62d 1:637,645,645 1:637,645,64a 1:639,62c,645 1:639,645,645
    1:639,645,645 1:639,645,649 1:63a,645,645 1:63a,645,64a 1:63a,645,649 1:641,62e,645
    1:641,62e,645 1:642,645,62d 1:642,645,645 1:644,62d,645 1:644,62d,64a 1:644,62d,649
    1:644,62c,62c 1:644,62c,62c 1:644,62e,645 1:644,62e,645 1:644,645,62d 1:644,645,62d
    1:645,62d,62c 1:645,62d,645 1:645,62d,64a 1:645,62c,62d 1:645,62c,645 1:645,62e,62c
    1:645,62e,645 3:645,62c,62e 1:647,645,62c 1:647,645,645 1:646,62d,645 1:646,62d,649
    1:646,62c,645 1:646,62c,645 1:646,62c,649 1:646,645,64a 1:646,645,649 1:64a,645,645
    1:64a,645,645 1:628,62e,64a 1:62a,62c,64a 1:62a,62c,649 1:62a,62e,64a 1:62a,62e,649
    1:62a,645,64a 1:62a,645,649 1:62c,645,64a 1:62c,62d,649 1:62c,645,649 1:633,62e,649
    1:635,62d,64a 1:634,62d,64a 1:636,62d,64a 1:644,62c,64a 1:644,645,64a 1:64a,62d,64a
    1:64a,62c,64a 1:64a,645,64a 1:645,645,64a 1:642,645,64a 1:646,62d,64a 1:642,645,62d
    1:644,62d,645 1:639,645,64a 1:643,645,64a 1:646,62c,62d 1:645,62e,64a 1:644,62c,645
    1:643,645,645 1:644,62c,645 1:646,62c,62d 1:62c,62d,64a 1:62d,62c,64a 1:645,62c,64a
    1:641,645,64a 1:628,62d,64a 1:643,645,645 1:639,62c,645 1:635,645,645 1:633,62e,64a
    1:646,62c,64a 29:635,644,6d2 1:642,644,6d2 1:627,644,644,647 1:627,643,628,631
    1:645,62d,645,62f 1:635,644,639,645 1:631,633,648,644 1:639,644,64a,647 1:648,633,644,645
    1:635,644,649 1:635,644,649,20,627,644,644,647,20,639,644,64a,647,20,648,633,644,645
    1:62c,644,20,62c,644,627,644,647 1:631,6cc,627,644 14:2c 1:3001 2+1:3a 2:21 1:3f 1+1:3016
    1a:2014 1:2013 1:5f 1:5f 1+1:28 2:7b 1:7d 1+1:3014 2+1:3010 2+1:300a 2+1:3008 2+3:300c 6:5b
    1:5d 1:20,305 1:20,305 1:20,305 1:20,305 1:5f 1:5f 1:5f 1:2c 1:3001 3:3b 1:3a 1:3f 1:21
    1:2014 1+1:28 2:7b 1:7d 1+1:3014 2:23 1:26 1+1:2a 2:2d 1:3c 1:3e 1:3d 2:5c 1+1:24 2:40
    5:20,64b 1:640,64b 1:20,64c 2:20,64d 2:20,64e 1:640,64e 1:20,64f 1:640,64f 1:20,650
    1:640,650 1:20,651 1:640,651 1:20,652 1:640,652 1+1:621 2+1:622 2+1:623 2+1:624 2+1:625
    2:626 1:626 1+1:626 2+1:627 2:628 1:628 1+1:628 2+1:629 2:62a 1:62a 1+1:62a 2:62b 1:62b
    1+1:62b 2:62c 1:62c 1+1:62c 2:62d 1:62d 1+1:62d 2:62e 1:62e 1+1:62e 2+1:62f 2+1:630 2+1:631
    2+1:632 2:633 1:633 1+1:633 2:634 1:634 1+1:634 2:635 1:635 1+1:635 2:636 1:636 1+1:636
    2:637 1:637 1+1:637 2:638 1:638 1+1:638 2:639 1:639 1+1:639 2:63a 1:63a 1:63a 1:641 1:641
    1:641 1+1:641 2:642 1:642 1+1:642 2:643 1:643 1+1:643 2:644 1:644 1+1:644 2:645 1:645
    1+1:645 2:646 1:646 1+1:646 2:647 1:647 1+1:647 2+1:648 2+1:649 2:64a 1:64a 1:64a 1:644,622
    1:644,622 1:644,623 1:644,623 1:644,625 1:644,625 1:644,627 1:644,627 5+1f:21 20+19:61
    1a+23:5b 24+1:2985 2:2e 1+1:300c 2:3001 1:30fb 1:30f2 1:30a1 1:30a3 1:30a5 1:30a7 1:30a9
    1:30e3 1:30e5 1:30e7 1:30c3 1:30fc 1:30a2 1:30a4 1:30a6 1:30a8 1+1:30aa 2:30ad 1:30af 1:30b1
    1:30b3 1:30b5 1:30b7 1:30b9 1:30bb 1:30bd 1:30bf 1:30c1 1:30c4 1:30c6 1:30c8 1+5:30ca 6:30d2
    1:30d5 1:30d8 1:30db 1+4:30de 5:30e4 1:30e6 1+5:30e8 6:30ef 1:30f3 1+1:3099 3+1:1100
    2+1*:11aa 1:1102 2:11ad 1+2:1103 3+5:11b0 6:111a 1+2:1106 3:1121 1+9:1109 d+5:1161 8+5:1167
    8+5:116d 8+2:1173 6+1:a2 2:ac 1:20,304 1:a6 1:a5 1:20a9 2:2502 1+3:2190 4:25a0 1:25cb
    412+27:10428 b0+23:104d8 c0+12*:10597 1+4*:10598 c+6*:105a4 10+2*:105b4 8:105bc 1ec+1:2d0
    2:e6 1:299 1:253 2+1*:2a3 1:ab66 2:2a4 1+1:256 2:1d91 1:258 1:25e 1:2a9 1:264 1:262 1:260
    1:29b 1:127 1:29c 1:267 1:284 1+1:2aa 2:26c 1:1df04 1:a78e 1:26e 1:1df05 1:28e 1:1df06 1:f8
    1+1:276 2:71 1:27a 1:1df08 1+1:27d 2:280 1:2a8 1:2a6 1:ab67 1:2a7 1:288 1:2c71 2:28f 1+1:2a1
    2:298 1+2:1c0 3:1df0a 1:1df1e 4c6+32:10cc0 d0+15:10d70 b50+1f:118c0 55a0+1f:16e60 5e96+19:61
    1a+9:30 46e:1d157,1d165 1:1d158,1d165 1:1d158,1d165,1d16e 1:1d158,1d165,1d16f
    1:1d158,1d165,1d170 1:1d158,1d165,1d171 1:1d158,1d165,1d172 57:1d1b9,1d165 1:1d1ba,1d165
    1:1d1b9,1d165,1d16e 1:1d1ba,1d165,1d16e 1:1d1b9,1d165,1d16f 1:1d1ba,1d165,1d16f 240+19:61
    1a+19:61 1a+19:61 1a+c*:61 1+2*:62 8+8*:6a 11+19:61 1a+19:61 1a+1*:61 3:64 3:67 3+1:6a
    4+3:6e 5+7:73 8+3:61 5+a*:66 3+2*:69 8+4*:71 a+19:61 1a+19:61 1a+1:61 3+3:64 6+7:6a 9+6:73
    8+19:61 1a+1:61 3+3:64 5+4:69 6:6f 4+6:73 8+19:61 1a+19:61 1a+19:61 1a+19:61 1a+19:61
    1a+19:61 1a+19:61 1a+19:61 1a+19:61 1a+19:61 1a+19:61 1a+19:61 1a+19:61 1a:131 1:237
    3+10:3b1 11:3b8 1+6:3c3 7:2207 1+10:3b1 11:3c3 1+6:3c3 7:2202 1:3b5 1:3b8 1:3ba 1:3c6 1:3c1
    1:3c0 1+10:3b1 11:3b8 1+6:3c3 7:2207 1+10:3b1 11:3c3 1+6:3c3 7:2202 1:3b5 1:3b8 1:3ba 1:3c6
    1:3c1 1:3c0 1+10:3b1 11:3b8 1+6:3c3 7:2207 1+10:3b1 11:3c3 1+6:3c3 7:2202 1:3b5 1:3b8 1:3ba
    1:3c6 1:3c1 1:3c0 1+10:3b1 11:3b8 1+6:3c3 7:2207 1+10:3b1 11:3c3 1+6:3c3 7:2202 1:3b5 1:3b8
    1:3ba 1:3c6 1:3c1 1:3c0 1+10:3b1 11:3b8 1+6:3c3 7:2207 1+10:3b1 11:3c3 1+6:3c3 7:2202 1:3b5
    1:3b8 1:3ba 1:3c6 1:3c1 1:3c0 1:3dd 1:3dd 3+9:30 a+9:30 a+9:30 a+9:30 a+9:30 83a+8:430
    9+2:43a 3+a:43e b:44b 1+1:44d 2:a689 1:4d9 1:456 1:458 1:4e9 1:4af 1:4cf 1+8:430 9+1:43a
    2+1:43e 2:441 1+5:443 6+1:44a 2:491 1:456 1:455 1:45f 1:4ab 1:a651 1:4b1 893+21:1e922
    500+1:627 2:62c 1:62f 2:648 1:632 1:62d 1:637 1:64a 1+3:643 4:633 1:639 1:641 1:635 1:642
    1:631 1:634 1+1:62a 2:62e 1:630 1:636 1:638 1:63a 1:66e 1:6ba 1:6a1 1:66f 2:628 1:62c 2:647
    3:62d 2:64a 1+3:643 4:633 1:639 1:641 1:635 1:642 2:634 1+1:62a 2:62e 2:636 2:63a 7:62c
    5:62d 2:64a 2+1*:644 3:633 1:639 2:635 1:642 2:634 3:62e 2:636 2:63a 2:6ba 2:66f 2:628 1:62c
    2:647 3:62d 1:637 1:64a 1+1*:643 3:646 1:633 1:639 1:641 1:635 1:642 2:634 1+1:62a 2:62e
    2:636 1:638 1:63a 1:66e 2:6a1 2+1:627 2:62c 1:62f 1+1:647 2:632 1:62d 1:637 1:64a 2+2:644
    3:633 1:639 1:641 1:635 1:642 1:631 1:634 1+1:62a 2:62e 1:630 1:636 1:638 1:63a 6:628 1:62c
    1:62f 2:648 1:632 1:62d 1:637 1:64a 2+2:644 3:633 1:639 1:641 1:635 1:642 1:631 1:634
    1+1:62a 2:62e 1:630 1:636 1:638 1:63a 246:30,2c 1:31,2c 1:32,2c 1:33,2c 1:34,2c 1:35,2c
    1:36,2c 1:37,2c 1:38,2c 1:39,2c 6:28,61,29 1:28,62,29 1:28,63,29 1:28,64,29 1:28,65,29
    1:28,66,29 1:28,67,29 1:28,68,29 1:28,69,29 1:28,6a,29 1:28,6b,29 1:28,6c,29 1:28,6d,29
    1:28,6e,29 1:28,6f,29 1:28,70,29 1:28,71,29 1:28,72,29 1:28,73,29 1:28,74,29 1:28,75,29
    1:28,76,29 1:28,77,29 1:28,78,29 1:28,79,29 1:28,7a,29 1:3014,73,3015 1:63 1:72 1:63,64
    1:77,7a 2+19:61 1a:68,76 1:6d,76 1:73,64 1:73,73 1:70,70,76 1:77,63 1b:6d,63 1:6d,64 1:6d,72
    24:64,6a 70:307b,304b 1:30b3,30b3 1:30b5 e:624b 1:5b57 1:53cc 1:30c7 1:4e8c 1:591a 1:89e3
    1:5929 1:4ea4 1:6620 1:7121 1:6599 1:524d 1:5f8c 1:518d 1:65b0 1:521d 1:7d42 1:751f 1:8ca9
    1:58f0 1:5439 1:6f14 1:6295 1:6355 1:4e00 1:4e09 1:904a 1:5de6 1:4e2d 1:53f3 1:6307 1:8d70
    1:6253 1:7981 1:7a7a 1:5408 1:6e80 1:6709 1:6708 1:7533 1:5272 1:55b6 1:914d
    5:3014,672c,3015 1:3014,4e09,3015 1:3014,4e8c,3015 1:3014,5b89,3015 1:3014,70b9,3015
    1:3014,6253,3015 1:3014,76d7,3015 1:3014,52dd,3015 1:3014,6557,3015 8:5f97 1:53ef 99f+9:30
    fc10:4e3d 1:4e38 1:4e41 1:20122 1:4f60 1:4fae 1:4fbb 1:5002 1:507a 1:5099 1:50e7 1:50cf
    1:349e 1:2063a 1:514d 1:5154 1:5164 1:5177 1:2051c 1:34b9 1:5167 1:518d 1:2054b 1:5197
    1:51a4 1:4ecc 1:51ac 1:51b5 1:291df 1:51f5 1:5203 1:34df 1:523b 1:5246 1:5272 1:5277 1:3515
    1:52c7 1:52c9 1:52e4 1:52fa 1+1:5305 2:5317 1:5349 1:5351 1:535a 1:5373 1+1*:537d 1:537f
    2:537f 1:20a2c 1:7070 1:53ca 1:53df 1:20b63 1:53eb 1:53f1 1:5406 1:549e 1:5438 1:5448 1:5468
    1:54a2 1:54f6 1:5510 1:5553 1:5563 1:5584 1:5584 1:5599 1:55ab 1:55b3 1:55c2 1:5716 1:5606
    1:5717 1:5651 1:5674 1:5207 1:58ee 1:57ce 1:57f4 1:580d 1:578b 1:5832 1:5831 1:58ac 1:214e4
    1:58f2 1:58f7 1:5906 1:591a 1:5922 1:5962 1:216a8 1:216ea 1:59ec 1:5a1b 1:5a27 1:59d8 1:5a66
    1:36ee 1:36fc 1:5b08 1:5b3e 1:5b3e 1:219c8 1:5bc3 1:5bd8 1:5be7 1:5bf3 1:21b18 1:5bff 1:5c06
    1:5f53 1:5c22 1:3781 1:5c60 1:5c6e 1:5cc0 1:5c8d 1+1*:21de4 1:5d43 2:5d6e 1:5d6b 1:5d7c
    1+1:5de1 2:382f 1:5dfd 1:5e28 1:5e3d 1:5e69 1:3862 1:22183 1:387c 1:5eb0 1:5eb3 1:5eb6
    1:5eca 1:2a392 1:5efe 1:22331 1:22331 1:8201 1:5f22 1:5f22 1:38c7 1:232b8 1:261da 1:5f62
    1:5f6b 1:38e3 1:5f9a 1:5fcd 1:5fd7 1:5ff9 1:6081 1:393a 1:391c 1:6094 1:226d4 1:60c7 1:6148
    1:614c 1:614e 1:614c 1:617a 1:618e 1:61b2 1:61a4 1:61af 1:61de 1:61f2 1:61f6 1:6210 1:621b
    1:625d 1:62b1 1:62d4 1:6350 1:22b0c 1:633d 1:62fc 1:6368 1:6383 1:63e4 1:22bf1 1:6422 1:63c5
    1:63a9 1:3a2e 1:6469 1:647e 1:649d 1:6477 1:3a6c 1:654f 1:656c 1:2300a 1:65e3 1:66f8 1:6649
    1:3b19 1:6691 1:3b08 1:3ae4 1:5192 1:5195 1:6700 1:669c 1:80ad 1:43d9 1:6717 1:671b 1:6721
    1:675e 1:6753 1:233c3 1:3b49 1:67fa 1:6785 1:6852 1:6885 1:2346d 1:688e 1:681f 1:6914 1:3b9d
    1:6942 1:69a3 1:69ea 1:6aa8 1:236a3 1:6adb 1:3c18 1:6b21 1:238a7 1:6b54 1:3c4e 1:6b72 1:6b9f
    1+1:6bba 2:23a8d 1:21d0b 1:23afa 1:6c4e 1:23cbc 1:6cbf 1:6ccd 1:6c67 1:6d16 1:6d3e 1:6d77
    1:6d41 1:6d69 1:6d78 1:6d85 1:23d1e 1:6d34 1:6e2f 1:6e6e 1:3d33 1:6ecb 1:6ec7 1:23ed1 1:6df9
    1:6f6e 1:23f5e 1:23f8e 1:6fc6 1:7039 1:701e 1:701b 1:3d96 1:704a 1:707d 1:7077 1:70ad
    1:20525 1:7145 1:24263 1:719c 1:243ab 1:7228 1:7235 1:7250 1:24608 1:7280 1:7295 1:24735
    1:24814 1:737a 1:738b 1:3eac 1:73a5 1:3eb8 1:3eb8 1:7447 1:745c 1:7471 1:7485 1:74ca 1:3f1b
    1:7524 1:24c36 1:753e 1:24c92 1:7570 1:2219f 1:7610 1:24fa1 1:24fb8 1:25044 1:3ffc 1:4008
    1:76f4 1:250f3 1:250f2 1:25119 1:25133 1+1:771e 2:771f 1:774a 1:4039 1:778b 1:4046 1:4096
    1:2541d 1:784e 1:788c 1:78cc 1:40e3 1:25626 1:7956 1:2569a 1:256c5 1:798f 1:79eb 1:412f
    1:7a40 1:7a4a 1:7a4f 1:2597c 1:25aa7 1:25aa7 1:7aee 1:4202 1:25bab 1:7bc6 1:7bc9 1:4227
    1:25c80 1:7cd2 1:42a0 1:7ce8 1:7ce3 1:7d00 1:25f86 1:7d63 1:4301 1:7dc7 1:7e02 1:7e45 1:4334
    1:26228 1:26247 1:4359 1:262d9 1:7f7a 1:2633e 1:7f95 1:7ffa 1:8005 1:264da 1:26523 1:8060
    1:265a8 1:8070 1:2335f 1:43d5 1:80b2 1:8103 1:440b 1:813e 1:5ab5 1:267a7 1:267b5 1:23393
    1:2339c 1:8201 1:8204 1:8f9e 1:446b 1:8291 1:828b 1:829d 1:52b3 1:82b1 1:82b3 1:82bd 1:82e6
    1:26b3c 1:82e5 1:831d 1:8363 1:83ad 1:8323 1:83bd 1:83e7 1:8457 1:8353 1:83ca 1:83cc 1:83dc
    1:26c36 1:26d6b 1:26cd5 1:452b 1:84f1 1:84f3 1:8516 1:273ca 1:8564 1:26f2c 1:455d 1:4561
    1:26fb1 1:270d2 1:456b 1:8650 1:865c 1:8667 1:8669 1:86a9 1:8688 1:870e 1:86e2 1:8779 1:8728
    1:876b 1:8786 1:45d7 1:87e1 1:8801 1:45f9 1:8860 1:8863 1:27667 1:88d7 1:88de 1:4635 1:88fa
    1:34bb 1:278ae 1:27966 1:46be 1:46c7 1:8aa0 1:8aed 1:8b8a 1:8c55 1:27ca8 1:8cab 1:8cc1
    1:8d1b 1:8d77 1:27f2f 1:20804 1:8dcb 1:8dbc 1:8df0 1:208de 1:8ed4 1:8f38 1:285d2 1:285ed
    1:9094 1:90f1 1:9111 1:2872e 1:911b 1:9238 1+1:92d7 2:927c 1:93f9 1:9415 1:28bfa 1:958b
    1:4995 1:95b7 1:28d77 1:49e6 1:96c3 1:5db2 1:9723 1:29145 1:2921a 1:4a6e 1:4a76 1:97e0
    1:2940a 1:4ab2 1:29496 1:980b 1:980b 1:9829 1:295b6 1:98e2 1:4b33 1:9929 1:99a7 1:99c2
    1:99fe 1:4bce 1:29b30 1:9b12 1:9c40 1:9cfd 1:4cce 1:4ced 1:9d67 1:2a0ce 1:4cf8 1:2a105
    1:2a20e 1:2a291 1:9ebb 1:4d56 1:9ef9 1:9efe 1:9f05 1:9f0f 1:9f16 1:9f3b 1:2a600"

/-- The runs that words describe, the first of them counting from `start`. -/
def runsOfWords (start : Nat) : List (List Char) → List MappedRun
  | [] => []
  | word :: rest =>
    let head := word.takeWhile (· != ':')
    let digits := head.filter (· != '*')
    let first := start + CharSet.hexNumber (digits.takeWhile (· != '+'))
    let run : MappedRun :=
      { first
        count := CharSet.hexNumber ((digits.dropWhile (· != '+')).drop 1) + 1
        step := if head.contains '*' then 2 else 1
        target := (Text.splitAtMark ',' ((word.dropWhile (· != ':')).drop 1)).map
          CharSet.hexNumber }
    run :: runsOfWords first rest

/-- The runs of characters that stand for others. -/
def mappedRuns : List MappedRun :=
  runsOfWords 0 ((CharSet.words mappingTable.toList).filter (· != []))

/-- Whether a character belongs to a run. -/
def MappedRun.contains (run : MappedRun) (n : Nat) : Bool :=
  run.first ≤ n && (n - run.first) % run.step == 0 && (n - run.first) / run.step < run.count

/-- What a character of a run stands for. -/
def MappedRun.image (run : MappedRun) (n : Nat) : List Char :=
  (run.target.dropLast ++ (run.target.getLast?.map (· + (n - run.first))).toList).map Char.ofNat

/-- The characters that a character of a name stands for; nothing if it is not allowed. -/
def mapChar? (c : Char) : Option (List Char) :=
  if c.isLower || c.isDigit then some [c]
  else if disallowedChars.contains c then none
  else if ignoredChars.contains c then some []
  else
    match mappedRuns.find? (·.contains c.toNat) with
    | some run => some (run.image c.toNat)
    | none => some [c]

end PushNotice.Url
