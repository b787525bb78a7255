import SchoolRegister.Text.Normal.Table

/-! # Folding

In names in which capital and small letters count as the same, every letter is folded to the small
ones that stand for it.  The table holds what folding and decomposition together give beyond
decomposition alone; some characters do not count at all. -/

namespace SchoolRegister.Text.Normal

/-- The characters that are folded. -/
def foldingLines : List String := [
  "41-5a=61 c0-d6=e0 d8-de=f8 df=73.73 100/12e=101 130=69.307 132/136=133 139/147=13a",
  "14a/176=14b 178=ff 179/17d=17a 181=253 182/184=183 186=254 187=188 189-18a=256 18b=18c",
  "18e=1dd 18f=259 190=25b 191=192 193=260 194=263 196=269 197=268 198=199 19c=26f 19d=272",
  "19f=275 1a0/1a4=1a1 1a6=280 1a7=1a8 1a9=283 1ac=1ad 1ae=288 1af=1b0 1b1-1b2=28a 1b3/1b5=1b4",
  "1b7=292 1b8=1b9 1bc=1bd 1c4=1c6 1c5=1c6 1c7=1c9 1c8=1c9 1ca=1cc 1cb/1db=1cc 1de/1ee=1df",
  "1f1=1f3 1f2/1f4=1f3 1f6=195 1f7=1bf 1f8/21e=1f9 220=19e 222/232=223 23a=2c65 23b=23c 23d=19a",
  "23e=2c66 241=242 243=180 244=289 245=28c 246/24e=247 345=3b9 370/372=371 376=377 37a=20.3b9",
  "37f=3f3 386=3ac 388-38a=3ad 38c=3cc 38e-38f=3cd 391-3a1=3b1 3a3-3ab=3c3 3c2=3c3 3cf=3d7",
  "3d2=3c5 3d3=3cd 3d4=3cb 3d8/3ee=3d9 3f2=3c3 3f4=3b8 3f7=3f8 3f9=3c3 3fa=3fb 3fd-3ff=37b",
  "400-40f=450 410-42f=430 460/480=461 48a/4be=48b 4c0=4cf 4c1/4cd=4c2 4d0/52e=4d1 531-556=561",
  "10a0-10c5=2d00 10c7=2d27 10cd=2d2d 13a0-13ef=ab70 13f0-13f5=13f8 1c90-1cba=10d0",
  "1cbd-1cbf=10fd 1e00/1e94=1e01 1e9e=73.73 1ea0/1efe=1ea1 1f08-1f0f=1f00 1f18-1f1d=1f10",
  "1f28-1f2f=1f20 1f38-1f3f=1f30 1f48-1f4d=1f40 1f59/1f5f=1f51 1f68-1f6f=1f60 1f80=1f00.3b9",
  "1f81=1f01.3b9 1f82=1f02.3b9 1f83=1f03.3b9 1f84=1f04.3b9 1f85=1f05.3b9 1f86=1f06.3b9",
  "1f87=1f07.3b9 1f88=1f00.3b9 1f89=1f01.3b9 1f8a=1f02.3b9 1f8b=1f03.3b9 1f8c=1f04.3b9",
  "1f8d=1f05.3b9 1f8e=1f06.3b9 1f8f=1f07.3b9 1f90=1f20.3b9 1f91=1f21.3b9 1f92=1f22.3b9",
  "1f93=1f23.3b9 1f94=1f24.3b9 1f95=1f25.3b9 1f96=1f26.3b9 1f97=1f27.3b9 1f98=1f20.3b9",
  "1f99=1f21.3b9 1f9a=1f22.3b9 1f9b=1f23.3b9 1f9c=1f24.3b9 1f9d=1f25.3b9 1f9e=1f26.3b9",
  "1f9f=1f27.3b9 1fa0=1f60.3b9 1fa1=1f61.3b9 1fa2=1f62.3b9 1fa3=1f63.3b9 1fa4=1f64.3b9",
  "1fa5=1f65.3b9 1fa6=1f66.3b9 1fa7=1f67.3b9 1fa8=1f60.3b9 1fa9=1f61.3b9 1faa=1f62.3b9",
  "1fab=1f63.3b9 1fac=1f64.3b9 1fad=1f65.3b9 1fae=1f66.3b9 1faf=1f67.3b9 1fb2=1f70.3b9",
  "1fb3=3b1.3b9 1fb4=3ac.3b9 1fb7=3b1.342.3b9 1fb8-1fb9=1fb0 1fba-1fbb=1f70 1fbc=3b1.3b9",
  "1fc2=1f74.3b9 1fc3=3b7.3b9 1fc4=3ae.3b9 1fc7=3b7.342.3b9 1fc8-1fcb=1f72 1fcc=3b7.3b9",
  "1fd8-1fd9=1fd0 1fda-1fdb=1f76 1fe8-1fe9=1fe0 1fea-1feb=1f7a 1fec=1fe5 1ff2=1f7c.3b9",
  "1ff3=3c9.3b9 1ff4=3ce.3b9 1ff7=3c9.342.3b9 1ff8-1ff9=1f78 1ffa-1ffb=1f7c 1ffc=3c9.3b9",
  "20a8=72.73 2102=63 2103=b0.63 2107=25b 2109=b0.66 210b=68 210c=68 210d=68 2110=69 2111=69",
  "2112=6c 2115=6e 2116=6e.6f 2119-211b=70 211c=72 211d=72 2120=73.6d 2121=74.65.6c 2122=74.6d",
  "2124=7a 2126=3c9 2128=7a 212a=6b 212b=e5 212c-212d=62 2130-2131=65 2132=214e 2133=6d",
  "213e=3b3 213f=3c0 2145=64 2160-216f=2170 2183=2184 24b6-24cf=24d0 2c00-2c2f=2c30 2c60=2c61",
  "2c62=26b 2c63=1d7d 2c64=27d 2c67/2c6b=2c68 2c6d=251 2c6e=271 2c6f=250 2c70=252 2c72=2c73",
  "2c75=2c76 2c7e-2c7f=23f 2c80/2ce2=2c81 2ceb/2ced=2cec 2cf2=2cf3 3371=68.70.61 3373=61.75",
  "3375=6f.76 3380=70.61 3381=6e.61 3382=3bc.61 3383=6d.61 3384=6b.61 3385=6b.62 3386=6d.62",
  "3387=67.62 338a=70.66 338b=6e.66 338c=3bc.66 3390=68.7a 3391=6b.68.7a 3392=6d.68.7a",
  "3393=67.68.7a 3394=74.68.7a 33a9=70.61 33aa=6b.70.61 33ab=6d.70.61 33ac=67.70.61 33b4=70.76",
  "33b5=6e.76 33b6=3bc.76 33b7=6d.76 33b8=6b.76 33b9=6d.76 33ba=70.77 33bb=6e.77 33bc=3bc.77",
  "33bd=6d.77 33be=6b.77 33bf=6d.77 33c0=6b.3c9 33c1=6d.3c9 33c3=62.71 33c6=63.2215.6b.67",
  "33c7=63.6f.2e 33c8=64.62 33c9=67.79 33cb=68.70 33cd=6b.6b 33ce=6b.6d 33d7=70.68",
  "33d9=70.70.6d 33da=70.72 33dc=73.76 33dd=77.62 a640/a66c=a641 a680/a69a=a681 a722/a72e=a723",
  "a732/a76e=a733 a779/a77b=a77a a77d=1d79 a77e/a786=a77f a78b=a78c a78d=265 a790/a792=a791",
  "a796/a7a8=a797 a7aa=266 a7ab=25c a7ac=261 a7ad=26c a7ae=26a a7b0=29e a7b1=287 a7b2=29d",
  "a7b3=ab53 a7b4/a7c2=a7b5 a7c4=a794 a7c5=282 a7c6=1d8e a7c7/a7c9=a7c8 a7d0=a7d1",
  "a7d6/a7d8=a7d7 a7f5=a7f6 ff21-ff3a=ff41 10400-10427=10428 104b0-104d3=104d8",
  "10570-1057a=10597 1057c-1058a=105a3 1058c-10592=105b3 10594-10595=105bb 10c80-10cb2=10cc0",
  "118a0-118bf=118c0 16e40-16e5f=16e60 1d400-1d419=61 1d434-1d44d=61 1d468-1d481=61",
  "1d49c/1d49e=61 1d49f=64 1d4a2=67 1d4a5-1d4a6=6a 1d4a9-1d4ac=6e 1d4ae-1d4b5=73 1d4d0-1d4e9=61",
  "1d504-1d505=61 1d507-1d50a=64 1d50d-1d514=6a 1d516-1d51c=73 1d538-1d539=61 1d53b-1d53e=64",
  "1d540-1d544=69 1d546=6f 1d54a-1d550=73 1d56c-1d585=61 1d5a0-1d5b9=61 1d5d4-1d5ed=61",
  "1d608-1d621=61 1d63c-1d655=61 1d670-1d689=61 1d6a8-1d6b8=3b1 1d6b9=3b8 1d6ba-1d6c0=3c3",
  "1d6d3=3c3 1d6e2-1d6f2=3b1 1d6f3=3b8 1d6f4-1d6fa=3c3 1d70d=3c3 1d71c-1d72c=3b1 1d72d=3b8",
  "1d72e-1d734=3c3 1d747=3c3 1d756-1d766=3b1 1d767=3b8 1d768-1d76e=3c3 1d781=3c3",
  "1d790-1d7a0=3b1 1d7a1=3b8 1d7a2-1d7a8=3c3 1d7bb=3c3 1e900-1e921=1e922"]

/-- The characters that are folded, as a table. -/
def foldings : List Entry := entries foldingLines

/-- What a character is folded to. -/
def folded (n : Nat) : List Nat := replaced foldings n

/-- The runs of characters that do not count. -/
def silentRanges : List (Nat × Nat) := [
  (0xad, 0xad), (0x34f, 0x34f), (0x1806, 0x1806), (0x180b, 0x180d), (0x200b, 0x200d),
  (0x2060, 0x2060), (0xfe00, 0xfe0f), (0xfeff, 0xfeff)]

end SchoolRegister.Text.Normal
