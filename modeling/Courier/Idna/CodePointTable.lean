/-
  The tables of the code points that a label may hold: their validity, scripts, joining types,
  directions and marks.

  The tables of directions and of unnamed code points speak of code points that a label may hold; of
  others they say nothing.  What is in no table of directions runs from left to right.
-/
import Courier.Text.Ranges

namespace Courier.Idna

/-- Code points that a label may hold anywhere, the newest ones aside. -/
def validPoints : Rows := Rows.read
  "2d 30,39 61,7a df,f6 f8,ff 101 103 105 107 109 10b 10d 10f 111 113 115 117 119 11b 11d 11f 121
  123 125 127 129 12b 12d 12f 131 135 137,138 13a 13c 13e 142 144 146 148 14b 14d 14f 151 153
  155 157 159 15b 15d 15f 161 163 165 167 169 16b 16d 16f 171 173 175 177 17a 17c 17e 180 183
  185 188 18c,18d 192 195 199,19b 19e 1a1 1a3 1a5 1a8 1aa,1ab 1ad 1b0 1b4 1b6 1b9,1bb 1bd,1c3
  1ce 1d0 1d2 1d4 1d6 1d8 1da 1dc,1dd 1df 1e1 1e3 1e5 1e7 1e9 1eb 1ed 1ef,1f0 1f5 1f9 1fb 1fd
  1ff 201 203 205 207 209 20b 20d 20f 211 213 215 217 219 21b 21d 21f 221 223 225 227 229 22b
  22d 22f 231 233,239 23c 23f,240 242 247 249 24b 24d 24f,2af 2b9,2c1 2c6,2d1 2ec 2ee 300,33f
  342 346,34e 350,36f 371 373 377 37b,37d 390 3ac,3ce 3d7 3d9 3db 3dd 3df 3e1 3e3 3e5 3e7 3e9
  3eb 3ed 3ef 3f3 3f8 3fb,3fc 430,45f 461 463 465 467 469 46b 46d 46f 471 473 475 477 479 47b
  47d 47f 481 483,487 48b 48d 48f 491 493 495 497 499 49b 49d 49f 4a1 4a3 4a5 4a7 4a9 4ab 4ad
  4af 4b1 4b3 4b5 4b7 4b9 4bb 4bd 4bf 4c2 4c4 4c6 4c8 4ca 4cc 4ce,4cf 4d1 4d3 4d5 4d7 4d9 4db
  4dd 4df 4e1 4e3 4e5 4e7 4e9 4eb 4ed 4ef 4f1 4f3 4f5 4f7 4f9 4fb 4fd 4ff 501 503 505 507 509
  50b 50d 50f 511 513 515 517 519 51b 51d 51f 521 523 525 527 529 52b 52d 52f 559 560,586 588
  591,5bd 5bf 5c1,5c2 5c4,5c5 5c7 5d0,5ea 5ef,5f2 610,61a 620,63f 641,65f 66e,674 679,6d3
  6d5,6dc 6df,6e8 6ea,6ef 6fa,6ff 710,74a 74d,7b1 7c0,7f5 7fd 800,82d 840,85b 860,86a 870,887
  889,88f 897,8e1 8e3,957 960,963 966,96f 971,983 985,98c 98f,990 993,9a8 9aa,9b0 9b2 9b6,9b9
  9bc,9c4 9c7,9c8 9cb,9ce 9d7 9e0,9e3 9e6,9f1 9fc 9fe a01,a03 a05,a0a a0f,a10 a13,a28 a2a,a30
  a32 a35 a38,a39 a3c a3e,a42 a47,a48 a4b,a4d a51 a5c a66,a75 a81,a83 a85,a8d a8f,a91 a93,aa8
  aaa,ab0 ab2,ab3 ab5,ab9 abc,ac5 ac7,ac9 acb,acd ad0 ae0,ae3 ae6,aef af9,aff b01,b03 b05,b0c
  b0f,b10 b13,b28 b2a,b30 b32,b33 b35,b39 b3c,b44 b47,b48 b4b,b4d b55,b57 b5f,b63 b66,b6f b71
  b82,b83 b85,b8a b8e,b90 b92,b95 b99,b9a b9c b9e,b9f ba3,ba4 ba8,baa bae,bb9 bbe,bc2 bc6,bc8
  bca,bcd bd0 bd7 be6,bef c00,c0c c0e,c10 c12,c28 c2a,c39 c3c,c44 c46,c48 c4a,c4d c55,c56
  c58,c5a c5c,c5d c60,c63 c66,c6f c80,c83 c85,c8c c8e,c90 c92,ca8 caa,cb3 cb5,cb9 cbc,cc4
  cc6,cc8 cca,ccd cd5,cd6 cdc,cde ce0,ce3 ce6,cef cf1,cf3 d00,d0c d0e,d10 d12,d44 d46,d48
  d4a,d4e d54,d57 d5f,d63 d66,d6f d7a,d7f d81,d83 d85,d96 d9a,db1 db3,dbb dbd dc0,dc6 dca
  dcf,dd4 dd6 dd8,ddf de6,def df2,df3 e01,e32 e34,e3a e40,e4e e50,e59 e81,e82 e84 e86,e8a
  e8c,ea3 ea5 ea7,eb2 eb4,ebd ec0,ec4 ec6 ec8,ece ed0,ed9 ede,edf f00 f0b f18,f19 f20,f29 f35
  f37 f39 f3e,f42 f44,f47 f49,f4c f4e,f51 f53,f56 f58,f5b f5d,f68 f6a,f6c f71,f72 f74 f7a,f80
  f82,f84 f86,f92 f94,f97 f99,f9c f9e,fa1 fa3,fa6 fa8,fab fad,fb8 fba,fbc fc6 1000,1049
  1050,109d 10d0,10fa 10fd,10ff 1200,1248 124a,124d 1250,1256 1258 125a,125d 1260,1288 128a,128d
  1290,12b0 12b2,12b5 12b8,12be 12c0 12c2,12c5 12c8,12d6 12d8,1310 1312,1315 1318,135a 135d,135f
  1380,138f 13a0,13f5 1401,166c 166f,167f 1681,169a 16a0,16ea 16f1,16f8 1700,1715 171f,1734
  1740,1753 1760,176c 176e,1770 1772,1773 1780,17b3 17b6,17d3 17d7 17dc,17dd 17e0,17e9 1810,1819
  1820,1878 1880,18aa 18b0,18f5 1900,191e 1920,192b 1930,193b 1946,196d 1970,1974 1980,19ab
  19b0,19c9 19d0,19d9 1a00,1a1b 1a20,1a5e 1a60,1a7c 1a7f,1a89 1a90,1a99 1aa7 1ab0,1abd 1abf,1add
  1ae0,1aeb 1b00,1b4c 1b50,1b59 1b6b,1b73 1b80,1bf3 1c00,1c37 1c40,1c49 1c4d,1c7d 1c8a 1cd0,1cd2
  1cd4,1cfa 1d00,1d2b 1d2f 1d3b 1d4e 1d6b,1d77 1d79,1d9a 1dc0,1dff 1e01 1e03 1e05 1e07 1e09 1e0b
  1e0d 1e0f 1e11 1e13 1e15 1e17 1e19 1e1b 1e1d 1e1f 1e21 1e23 1e25 1e27 1e29 1e2b 1e2d 1e2f 1e31
  1e33 1e35 1e37 1e39 1e3b 1e3d 1e3f 1e41 1e43 1e45 1e47 1e49 1e4b 1e4d 1e4f 1e51 1e53 1e55 1e57
  1e59 1e5b 1e5d 1e5f 1e61 1e63 1e65 1e67 1e69 1e6b 1e6d 1e6f 1e71 1e73 1e75 1e77 1e79 1e7b 1e7d
  1e7f 1e81 1e83 1e85 1e87 1e89 1e8b 1e8d 1e8f 1e91 1e93 1e95,1e99 1e9c,1e9d 1e9f 1ea1 1ea3 1ea5
  1ea7 1ea9 1eab 1ead 1eaf 1eb1 1eb3 1eb5 1eb7 1eb9 1ebb 1ebd 1ebf 1ec1 1ec3 1ec5 1ec7 1ec9 1ecb
  1ecd 1ecf 1ed1 1ed3 1ed5 1ed7 1ed9 1edb 1edd 1edf 1ee1 1ee3 1ee5 1ee7 1ee9 1eeb 1eed 1eef 1ef1
  1ef3 1ef5 1ef7 1ef9 1efb 1efd 1eff,1f07 1f10,1f15 1f20,1f27 1f30,1f37 1f40,1f45 1f50,1f57
  1f60,1f67 1f70 1f72 1f74 1f76 1f78 1f7a 1f7c 1fb0,1fb1 1fb6 1fc6 1fd0,1fd2 1fd6,1fd7 1fe0,1fe2
  1fe4,1fe7 1ff6 214e 2184 2c30,2c5f 2c61 2c65,2c66 2c68 2c6a 2c6c 2c71 2c73,2c74 2c76,2c7b 2c81
  2c83 2c85 2c87 2c89 2c8b 2c8d 2c8f 2c91 2c93 2c95 2c97 2c99 2c9b 2c9d 2c9f 2ca1 2ca3 2ca5 2ca7
  2ca9 2cab 2cad 2caf 2cb1 2cb3 2cb5 2cb7 2cb9 2cbb 2cbd 2cbf 2cc1 2cc3 2cc5 2cc7 2cc9 2ccb 2ccd
  2ccf 2cd1 2cd3 2cd5 2cd7 2cd9 2cdb 2cdd 2cdf 2ce1 2ce3,2ce4 2cec 2cee,2cf1 2cf3 2d00,2d25 2d27
  2d2d 2d30,2d67 2d7f,2d96 2da0,2da6 2da8,2dae 2db0,2db6 2db8,2dbe 2dc0,2dc6 2dc8,2dce 2dd0,2dd6
  2dd8,2dde 2de0,2dff 2e2f 3005,3007 302a,302d 303c 3041,3096 3099,309a 309d,309e 30a1,30fa
  30fc,30fe 3105,312f 31a0,31bf 31f0,31ff 3400,4dbf 4e00,a48c a4d0,a4fd a500,a60c a610,a62b a641
  a643 a645 a647 a649 a64b a64d a64f a651 a653 a655 a657 a659 a65b a65d a65f a661 a663 a665 a667
  a669 a66b a66d,a66f a674,a67d a67f a681 a683 a685 a687 a689 a68b a68d a68f a691 a693 a695 a697
  a699 a69b a69e,a6e5 a6f0,a6f1 a717,a71f a723 a725 a727 a729 a72b a72d a72f,a731 a733 a735 a737
  a739 a73b a73d a73f a741 a743 a745 a747 a749 a74b a74d a74f a751 a753 a755 a757 a759 a75b a75d
  a75f a761 a763 a765 a767 a769 a76b a76d a76f a771,a778 a77a a77c a77f a781 a783 a785 a787,a788
  a78c a78e,a78f a791 a793,a795 a797 a799 a79b a79d a79f a7a1 a7a3 a7a5 a7a7 a7a9 a7af a7b5 a7b7
  a7b9 a7bb a7bd a7bf a7c1 a7c3 a7c8 a7ca a7cd a7cf a7d1 a7d3 a7d5 a7d7 a7d9 a7db a7f6,a7f7
  a7fa,a827 a82c a840,a873 a880,a8c5 a8d0,a8d9 a8e0,a8f7 a8fb a8fd,a92d a930,a953 a980,a9c0
  a9cf,a9d9 a9e0,a9fe aa00,aa36 aa40,aa4d aa50,aa59 aa60,aa76 aa7a,aac2 aadb,aadd aae0,aaef
  aaf2,aaf6 ab01,ab06 ab09,ab0e ab11,ab16 ab20,ab26 ab28,ab2e ab30,ab5a ab60,ab68 abc0,abea
  abec,abed abf0,abf9 ac00,d7a3 fa0e,fa0f fa11 fa13,fa14 fa1f fa21 fa23,fa24 fa27,fa29 fb1e
  fe20,fe2f fe73 10000,1000b 1000d,10026 10028,1003a 1003c,1003d 1003f,1004d 10050,1005d
  10080,100fa 101fd 10280,1029c 102a0,102d0 102e0 10300,1031f 1032d,10340 10342,10349
  10350,1037a 10380,1039d 103a0,103c3 103c8,103cf 10428,1049d 104a0,104a9 104d8,104fb
  10500,10527 10530,10563 10597,105a1 105a3,105b1 105b3,105b9 105bb,105bc 105c0,105f3
  10600,10736 10740,10755 10760,10767 10780 10800,10805 10808 1080a,10835 10837,10838 1083c
  1083f,10855 10860,10876 10880,1089e 108e0,108f2 108f4,108f5 10900,10915 10920,10939
  10940,10959 10980,109b7 109be,109bf 10a00,10a03 10a05,10a06 10a0c,10a13 10a15,10a17
  10a19,10a35 10a38,10a3a 10a3f 10a60,10a7c 10a80,10a9c 10ac0,10ac7 10ac9,10ae6 10b00,10b35
  10b40,10b55 10b60,10b72 10b80,10b91 10c00,10c48 10cc0,10cf2 10d00,10d27 10d30,10d39
  10d40,10d4f 10d69,10d6d 10d6f,10d85 10e80,10ea9 10eab,10eac 10eb0,10eb1 10ec2,10ec7
  10efa,10f1c 10f27 10f30,10f50 10f70,10f85 10fb0,10fc4 10fe0,10ff6 11000,11046 11066,11075
  1107f,110ba 110c2 110d0,110e8 110f0,110f9 11100,11134 11136,1113f 11144,11147 11150,11173
  11176 11180,111c4 111c9,111cc 111ce,111da 111dc 11200,11211 11213,11237 1123e,11241
  11280,11286 11288 1128a,1128d 1128f,1129d 1129f,112a8 112b0,112ea 112f0,112f9 11300,11303
  11305,1130c 1130f,11310 11313,11328 1132a,11330 11332,11333 11335,11339 1133b,11344
  11347,11348 1134b,1134d 11350 11357 1135d,11363 11366,1136c 11370,11374 11380,11389 1138b
  1138e 11390,113b5 113b7,113c0 113c2 113c5 113c7,113ca 113cc,113d3 113e1,113e2 11400,1144a
  11450,11459 1145e,11461 11480,114c5 114c7 114d0,114d9 11580,115b5 115b8,115c0 115d8,115dd
  11600,11640 11644 11650,11659 11680,116b8 116c0,116c9 116d0,116e3 11700,1171a 1171d,1172b
  11730,11739 11740,11746 11800,1183a 118c0,118e9 118ff,11906 11909 1190c,11913 11915,11916
  11918,11935 11937,11938 1193b,11943 11950,11959 119a0,119a7 119aa,119d7 119da,119e1
  119e3,119e4 11a00,11a3e 11a47 11a50,11a99 11a9d 11ab0,11af8 11b60,11b67 11bc0,11be0
  11bf0,11bf9 11c00,11c08 11c0a,11c36 11c38,11c40 11c50,11c59 11c72,11c8f 11c92,11ca7
  11ca9,11cb6 11d00,11d06 11d08,11d09 11d0b,11d36 11d3a 11d3c,11d3d 11d3f,11d47 11d50,11d59
  11d60,11d65 11d67,11d68 11d6a,11d8e 11d90,11d91 11d93,11d98 11da0,11da9 11db0,11ddb
  11de0,11de9 11ee0,11ef6 11f00,11f10 11f12,11f3a 11f3e,11f42 11f50,11f5a 11fb0 12000,12399
  12480,12543 12f90,12ff0 13000,1342f 13440,13455 13460,143fa 14400,14646 16100,16139
  16800,16a38 16a40,16a5e 16a60,16a69 16a70,16abe 16ac0,16ac9 16ad0,16aed 16af0,16af4
  16b00,16b36 16b40,16b43 16b50,16b59 16b63,16b77 16b7d,16b8f 16d40,16d6c 16d70,16d79
  16e60,16e7f 16ebb,16ed3 16f00,16f4a 16f4f,16f87 16f8f,16f9f 16fe0,16fe1 16fe3,16fe4
  16ff0,16ff3 17000,18cd5 18cff,18d1e 18d80,18df2 1aff0,1aff3 1aff5,1affb 1affd,1affe
  1b000,1b122 1b132 1b150,1b152 1b155 1b164,1b167 1b170,1b2fb 1bc00,1bc6a 1bc70,1bc7c
  1bc80,1bc88 1bc90,1bc99 1bc9d,1bc9e 1cf00,1cf2d 1cf30,1cf46 1da00,1da36 1da3b,1da6c 1da75
  1da84 1da9b,1da9f 1daa1,1daaf 1df00,1df1e 1df25,1df2a 1e000,1e006 1e008,1e018 1e01b,1e021
  1e023,1e024 1e026,1e02a 1e08f 1e100,1e12c 1e130,1e13d 1e140,1e149 1e14e 1e290,1e2ae
  1e2c0,1e2f9 1e4d0,1e4f9 1e5d0,1e5fa 1e6c0,1e6de 1e6e0,1e6f5 1e6fe,1e6ff 1e7e0,1e7e6
  1e7e8,1e7eb 1e7ed,1e7ee 1e7f0,1e7fe 1e800,1e8c4 1e8d0,1e8d6 1e922,1e94b 1e950,1e959
  20000,2a6df 2a700,2b81d 2b820,2cead 2ceb0,2ebe0 2ebf0,2ee5d 30000,3134a 31350,33479"

/-- The newest letters and marks that a label may hold; the tables of directions and names do not know
    them.  Of a script that is new as a whole the table has the whole block. -/
def newestPoints : Rows := Rows.read
  "5c8 b53,b54 1ade,1adf 1aec,1aff 208f 209d,209f 16d80,16daf 18e00,1919f 3d000,3fc3f"

/-- Whether a label may hold a code point anywhere. -/
def isValidPoint (c : Nat) : Bool := validPoints.contains c || newestPoints.contains c

/-- The Greek script. -/
def greek : Rows := Rows.read
  "370,373 375,377 37a,37d 37f 384 386 388,38a 38c 38e,3a1 3a3,3e1 3f0,3ff 1d26,1d2a 1d5d,1d61
  1d66,1d6a 1dbf 1f00,1f15 1f18,1f1d 1f20,1f45 1f48,1f4d 1f50,1f57 1f59 1f5b 1f5d 1f5f,1f7d
  1f80,1fb4 1fb6,1fc4 1fc6,1fd3 1fd6,1fdb 1fdd,1fef 1ff2,1ff4 1ff6,1ffe 2126 ab65 10140,1018e
  101a0 1d200,1d245"

/-- The Han script. -/
def han : Rows := Rows.read
  "2e80,2e99 2e9b,2ef3 2f00,2fd5 3005 3007 3021,3029 3038,303b 3400,4dbf 4e00,9fff f900,fa6d
  fa70,fad9 16fe2,16fe3 16ff0,16ff6 20000,2a6df 2a700,2b81d 2b820,2cead 2ceb0,2ebe0 2ebf0,2ee5d
  2f800,2fa1d 30000,3134a 31350,33479"

/-- The Hebrew script. -/
def hebrew : Rows := Rows.read
  "591,5c7 5d0,5ea 5ef,5f4 fb1d,fb36 fb38,fb3c fb3e fb40,fb41 fb43,fb44 fb46,fb4f"

/-- The Hiragana script. -/
def hiragana : Rows := Rows.read
  "3041,3096 309d,309f 1b001,1b11f 1b132 1b150,1b152 1f200"

/-- The Katakana script. -/
def katakana : Rows := Rows.read
  "30a1,30fa 30fd,30ff 31f0,31ff 32d0,32fe 3300,3357 ff66,ff6f ff71,ff9d 1aff0,1aff3 1aff5,1affb
  1affd,1affe 1b000 1b120,1b122 1b155 1b164,1b167"

/-- Characters that join to the left. -/
def joiningLeft : Rows := Rows.read
  "a872 10acd 10ad7 10d00 10fcb"

/-- Characters that join to the right. -/
def joiningRight : Rows := Rows.read
  "622,625 627 629 62f,632 648 671,673 675,677 688,699 6c0 6c3,6cb 6cd 6cf 6d2,6d3 6d5 6ee,6ef
  710 715,719 71e 728 72a 72c 72f 74d 759,75b 76b,76c 771 773,774 778,779 840 846,847 849 854
  856,858 867 869,86a 870,882 88e 8aa,8ac 8ae 8b1,8b2 8b9 10ac5 10ac7 10ac9,10aca 10ace,10ad2
  10add 10ae1 10ae4 10aef 10b81 10b83,10b85 10b89 10b8c 10b8e,10b8f 10b91 10ba9,10bac 10d22
  10ec2 10f33 10f54 10f74,10f75 10fb4,10fb6 10fb9,10fba 10fbd 10fc2,10fc3 10fc9"

/-- Characters that join on both sides. -/
def joiningDual : Rows := Rows.read
  "620 626 628 62a,62e 633,63f 641,647 649,64a 66e,66f 678,687 69a,6bf 6c1,6c2 6cc 6ce 6d0,6d1
  6fa,6fc 6ff 712,714 71a,71d 71f,727 729 72b 72d,72e 74e,758 75c,76a 76d,770 772 775,777
  77a,77f 7ca,7ea 841,845 848 84a,853 855 860 862,865 868 886 889,88d 88f 8a0,8a9 8af,8b0
  8b3,8b8 8ba,8c8 1807 1820,1878 1887,18a8 18aa a840,a871 10ac0,10ac4 10ad3,10ad6 10ad8,10adc
  10ade,10ae0 10aeb,10aee 10b80 10b82 10b86,10b88 10b8a,10b8b 10b8d 10b90 10bad,10bae
  10d01,10d21 10d23 10ec3,10ec4 10ec6,10ec7 10f30,10f32 10f34,10f44 10f51,10f53 10f70,10f73
  10f76,10f81 10fb0 10fb2,10fb3 10fb8 10fbb,10fbc 10fbe,10fbf 10fc1 10fc4 10fca 1e900,1e943"

/-- Characters that make their neighbours join. -/
def joiningCausing : Rows := Rows.read
  "640 7fa 883,885 180a 200d"

/-- Characters that joining looks through. -/
def joiningTransparent : Rows := Rows.read
  "ad 300,36f 483,489 591,5bd 5bf 5c1,5c2 5c4,5c5 5c7 610,61a 61c 64b,65f 670 6d6,6dc 6df,6e4
  6e7,6e8 6ea,6ed 70f 711 730,74a 7a6,7b0 7eb,7f3 7fd 816,819 81b,823 825,827 829,82d 859,85b
  897,89f 8ca,8e1 8e3,902 93a 93c 941,948 94d 951,957 962,963 981 9bc 9c1,9c4 9cd 9e2,9e3 9fe
  a01,a02 a3c a41,a42 a47,a48 a4b,a4d a51 a70,a71 a75 a81,a82 abc ac1,ac5 ac7,ac8 acd ae2,ae3
  afa,aff b01 b3c b3f b41,b44 b4d b55,b56 b62,b63 b82 bc0 bcd c00 c04 c3c c3e,c40 c46,c48
  c4a,c4d c55,c56 c62,c63 c81 cbc cbf cc6 ccc,ccd ce2,ce3 d00,d01 d3b,d3c d41,d44 d4d d62,d63
  d81 dca dd2,dd4 dd6 e31 e34,e3a e47,e4e eb1 eb4,ebc ec8,ece f18,f19 f35 f37 f39 f71,f7e
  f80,f84 f86,f87 f8d,f97 f99,fbc fc6 102d,1030 1032,1037 1039,103a 103d,103e 1058,1059
  105e,1060 1071,1074 1082 1085,1086 108d 109d 135d,135f 1712,1714 1732,1733 1752,1753 1772,1773
  17b4,17b5 17b7,17bd 17c6 17c9,17d3 17dd 180b,180d 180f 1885,1886 18a9 1920,1922 1927,1928 1932
  1939,193b 1a17,1a18 1a1b 1a56 1a58,1a5e 1a60 1a62 1a65,1a6c 1a73,1a7c 1a7f 1ab0,1add 1ae0,1aeb
  1b00,1b03 1b34 1b36,1b3a 1b3c 1b42 1b6b,1b73 1b80,1b81 1ba2,1ba5 1ba8,1ba9 1bab,1bad 1be6
  1be8,1be9 1bed 1bef,1bf1 1c2c,1c33 1c36,1c37 1cd0,1cd2 1cd4,1ce0 1ce2,1ce8 1ced 1cf4 1cf8,1cf9
  1dc0,1dff 200b 200e,200f 202a,202e 2060,2064 206a,206f 20d0,20f0 2cef,2cf1 2d7f 2de0,2dff
  302a,302d 3099,309a a66f,a672 a674,a67d a69e,a69f a6f0,a6f1 a802 a806 a80b a825,a826 a82c
  a8c4,a8c5 a8e0,a8f1 a8ff a926,a92d a947,a951 a980,a982 a9b3 a9b6,a9b9 a9bc,a9bd a9e5 aa29,aa2e
  aa31,aa32 aa35,aa36 aa43 aa4c aa7c aab0 aab2,aab4 aab7,aab8 aabe,aabf aac1 aaec,aaed aaf6 abe5
  abe8 abed fb1e fe00,fe0f fe20,fe2f feff fff9,fffb 101fd 102e0 10376,1037a 10a01,10a03
  10a05,10a06 10a0c,10a0f 10a38,10a3a 10a3f 10ae5,10ae6 10d24,10d27 10d69,10d6d 10eab,10eac
  10efa,10eff 10f46,10f50 10f82,10f85 11001 11038,11046 11070 11073,11074 1107f,11081
  110b3,110b6 110b9,110ba 110c2 11100,11102 11127,1112b 1112d,11134 11173 11180,11181
  111b6,111be 111c9,111cc 111cf 1122f,11231 11234 11236,11237 1123e 11241 112df 112e3,112ea
  11300,11301 1133b,1133c 11340 11366,1136c 11370,11374 113bb,113c0 113ce 113d0 113d2
  113e1,113e2 11438,1143f 11442,11444 11446 1145e 114b3,114b8 114ba 114bf,114c0 114c2,114c3
  115b2,115b5 115bc,115bd 115bf,115c0 115dc,115dd 11633,1163a 1163d 1163f,11640 116ab 116ad
  116b0,116b5 116b7 1171d 1171f 11722,11725 11727,1172b 1182f,11837 11839,1183a 1193b,1193c
  1193e 11943 119d4,119d7 119da,119db 119e0 11a01,11a0a 11a33,11a38 11a3b,11a3e 11a47
  11a51,11a56 11a59,11a5b 11a8a,11a96 11a98,11a99 11b60 11b62,11b64 11b66 11c30,11c36
  11c38,11c3d 11c3f 11c92,11ca7 11caa,11cb0 11cb2,11cb3 11cb5,11cb6 11d31,11d36 11d3a
  11d3c,11d3d 11d3f,11d45 11d47 11d90,11d91 11d95 11d97 11ef3,11ef4 11f00,11f01 11f36,11f3a
  11f40 11f42 11f5a 13430,13440 13447,13455 1611e,16129 1612d,1612f 16af0,16af4 16b30,16b36
  16f4f 16f8f,16f92 16fe4 1bc9d,1bc9e 1bca0,1bca3 1cf00,1cf2d 1cf30,1cf46 1d167,1d169
  1d173,1d182 1d185,1d18b 1d1aa,1d1ad 1d242,1d244 1da00,1da36 1da3b,1da6c 1da75 1da84
  1da9b,1da9f 1daa1,1daaf 1e000,1e006 1e008,1e018 1e01b,1e021 1e023,1e024 1e026,1e02a 1e08f
  1e130,1e136 1e2ae 1e2ec,1e2ef 1e4ec,1e4ef 1e5ee,1e5ef 1e6e3 1e6e6 1e6ee,1e6ef 1e6f5
  1e8d0,1e8d6 1e944,1e94b e0001 e0020,e007f e0100,e01ef"

/-- Code points without a known direction. -/
def directionUnknown : Rows := Rows.read
  "88f,897 c5c cdc cf3 ece 1acf,1aeb 1c8a a7cd,a7cf a7db 105c0,105f3 10940,10959 10d40,10d85
  10ec2,10eff 1123f,11241 11380,113e2 116d0,116e3 11b60,11bf9 11db0,11de9 11f00,11f5a
  1342f,143fa 16100,16139 16d40,16d79 16ebb,16ed3 16ff2,16ff3 187f8,187ff 18cff 18d09,18df2
  1b132 1b155 1df25,1df2a 1e08f 1e4d0,1e6ff 2b739,2b73f 2cea2,2cead 2ebf0,2ee5d 31350,33479"

/-- Right-to-left letters other than Arabic ones. -/
def directionRight : Rows := Rows.read
  "5d0,5f4 7c0,7ea 7f4,7f5 800,815 81a 824 828 840,858 10800,10939 10980,10a00 10a10,10a35
  10a60,10ae4 10b00,10cf2 10e80,10ea9 10eb0,10eb1 10f00,10f27 10f70,10f81 10fb0,10ff6
  1e800,1e8c4 1e922,1e943 1e94b,1e959"

/-- Arabic letters. -/
def directionArabic : Rows := Rows.read
  "620,64a 66e,66f 671,6d5 6e5,6e6 6ee,6ef 6fa,710 712,72f 74d,7a5 7b1 860,88e 8a0,8c9 fe73
  10d00,10d23 10f30,10f45"

/-- Neutral marks. -/
def directionNeutral : Rows := Rows.read
  "b7 2b9,2ba 2c6,2cf 2ec 375 2e2f 30fb a67f a717,a71f a788"

/-- Arabic digits. -/
def directionArabicNumber : Rows := Rows.read
  "660,669 10d30,10d39"

/-- European digits. -/
def directionNumber : Rows := Rows.read
  "30,39 6f0,6f9"

/-- Nonspacing marks. -/
def directionMark : Rows := Rows.read
  "300,36f 483,487 591,5c7 610,61a 64b,65f 670 6d6,6e4 6e7,6ed 711 730,74a 7a6,7b0 7eb,7f3 7fd
  816,819 81b,823 825,827 829,82d 859,85b 898,89f 8ca,902 93a 93c 941,948 94d 951,957 962,963
  981 9bc 9c1,9c4 9cd 9e2,9e3 9fe,a02 a3c a41,a51 a70,a71 a75,a82 abc ac1,ac8 acd ae2,ae3
  afa,b01 b3c b3f b41,b44 b4d,b56 b62,b63 b82 bc0 bcd c00 c04 c3c c3e,c40 c46,c56 c62,c63 c81
  cbc ccc,ccd ce2,ce3 d00,d01 d3b,d3c d41,d44 d4d d62,d63 d81 dca dd2,dd6 e31 e34,e3a e47,e4e
  eb1 eb4,ebc ec8,ecd f18,f19 f35,f39 f71,f7e f80,f87 f8d,fc6 102d,1030 1032,1037 1039,103a
  103d,103e 1058,1059 105e,1060 1071,1074 1082 1085,1086 108d 109d 135d,135f 1712,1714 1732,1733
  1752,1753 1772,1773 17b7,17bd 17c6 17c9,17d3 17dd 1885,1886 18a9 1920,1922 1927,1928 1932
  1939,193b 1a17,1a18 1a1b 1a56 1a58,1a60 1a62 1a65,1a6c 1a73,1a7f 1ab0,1ace 1b00,1b03 1b34
  1b36,1b3a 1b3c 1b42 1b6b,1b81 1ba2,1ba5 1ba8,1ba9 1bab,1bad 1be6 1be8,1be9 1bed 1bef,1bf1
  1c2c,1c33 1c36,1c37 1cd0,1ce0 1ce2,1ce8 1ced 1cf4 1cf8,1cf9 1dc0,1dff 2cef,2cf1 2d7f 2de0,2dff
  302a,302d 3099,309a a66f,a67d a69e,a69f a6f0,a6f1 a802 a806 a80b a825,a826 a82c a8c4,a8c5
  a8e0,a8f1 a8ff a926,a92d a947,a951 a980,a982 a9b3 a9b6,a9b9 a9bc,a9bd a9e5 aa29,aa2e aa31,aa32
  aa35,aa36 aa43 aa4c aa7c aab0 aab2,aab4 aab7,aab8 aabe,aabf aac1 aaec,aaed aaf6 abe5 abe8 abed
  fb1e,fe2f 101fd 102e0 10376,1037a 10a01,10a0f 10a38,10a3f 10ae5,10ae6 10d24,10d27 10eab,10eac
  10f46,10f50 10f82,10f85 11001 11038,11046 11070 11073,11074 1107f,11081 110b3,110b6
  110b9,110c2 11100,11102 11127,1112b 1112d,11134 11173 11180,11181 111b6,111be 111c9,111cc
  111cf 1122f,11231 11234 11236,1123e 112df 112e3,112ea 11300,11301 1133b,1133c 11340
  11366,11374 11438,1143f 11442,11444 11446 1145e 114b3,114b8 114ba 114bf,114c0 114c2,114c3
  115b2,115b5 115bc,115bd 115bf,115c0 115dc,115dd 11633,1163a 1163d 1163f,11640 116ab 116ad
  116b0,116b5 116b7 1171d,1171f 11722,11725 11727,1172b 1182f,11837 11839,1183a 1193b,1193c
  1193e 11943 119d4,119db 119e0 11a01,11a06 11a09,11a0a 11a33,11a38 11a3b,11a47 11a51,11a56
  11a59,11a5b 11a8a,11a96 11a98,11a99 11c30,11c3d 11c92,11ca7 11caa,11cb0 11cb2,11cb3
  11cb5,11cb6 11d31,11d45 11d47 11d90,11d91 11d95 11d97 11ef3,11ef4 16af0,16af4 16b30,16b36
  16f4f 16f8f,16f92 16fe4 1bc9d,1daaf 1e000,1e02a 1e130,1e136 1e2ae 1e2ec,1e2ef 1e8d0,1e8d6
  1e944,1e94a"

/-- Separators of numbers. -/
def directionSeparator : Rows := Rows.read
  "2d"

/-- Boundary-neutral code points. -/
def directionBoundary : Rows := Rows.read
  "200c,200d"

/-- Code points without a name. -/
def unnamedPoints : Rows := Rows.read
  "88f,897 c5c cdc cf3 ece 1acf,1aeb 1c8a a7cd,a7cf a7db 105c0,105f3 10940,10959 10d40,10d85
  10ec2,10eff 1123f,11241 11380,113e2 116d0,116e3 11b60,11bf9 11db0,11de9 11f00,11f5a
  1342f,143fa 16100,16139 16d40,16d79 16ebb,16ed3 16ff2,187ff 18cff,18df2 1b132 1b155
  1df25,1df2a 1e08f 1e4d0,1e6ff 2b739,2b73f 2cea2,2cead 2ebf0,2ee5d 31350,33479"

/-- Combining marks of every kind. -/
def marks : Rows := Rows.read
  "300,36f 483,489 591,5bd 5bf 5c1,5c2 5c4,5c5 5c7 610,61a 64b,65f 670 6d6,6dc 6df,6e4 6e7,6e8
  6ea,6ed 711 730,74a 7a6,7b0 7eb,7f3 7fd 816,819 81b,823 825,827 829,82d 859,85b 898,89f
  8ca,8e1 8e3,903 93a,93c 93e,94f 951,957 962,963 981,983 9bc 9be,9c4 9c7,9c8 9cb,9cd 9d7
  9e2,9e3 9fe a01,a03 a3c a3e,a42 a47,a48 a4b,a4d a51 a70,a71 a75 a81,a83 abc abe,ac5 ac7,ac9
  acb,acd ae2,ae3 afa,aff b01,b03 b3c b3e,b44 b47,b48 b4b,b4d b55,b57 b62,b63 b82 bbe,bc2
  bc6,bc8 bca,bcd bd7 c00,c04 c3c c3e,c44 c46,c48 c4a,c4d c55,c56 c62,c63 c81,c83 cbc cbe,cc4
  cc6,cc8 cca,ccd cd5,cd6 ce2,ce3 d00,d03 d3b,d3c d3e,d44 d46,d48 d4a,d4d d57 d62,d63 d81,d83
  dca dcf,dd4 dd6 dd8,ddf df2,df3 e31 e34,e3a e47,e4e eb1 eb4,ebc ec8,ecd f18,f19 f35 f37 f39
  f3e,f3f f71,f84 f86,f87 f8d,f97 f99,fbc fc6 102b,103e 1056,1059 105e,1060 1062,1064 1067,106d
  1071,1074 1082,108d 108f 109a,109d 135d,135f 1712,1715 1732,1734 1752,1753 1772,1773 17b4,17d3
  17dd 180b,180d 180f 1885,1886 18a9 1920,192b 1930,193b 1a17,1a1b 1a55,1a5e 1a60,1a7c 1a7f
  1ab0,1ace 1b00,1b04 1b34,1b44 1b6b,1b73 1b80,1b82 1ba1,1bad 1be6,1bf3 1c24,1c37 1cd0,1cd2
  1cd4,1ce8 1ced 1cf4 1cf7,1cf9 1dc0,1dff 20d0,20f0 2cef,2cf1 2d7f 2de0,2dff 302a,302f 3099,309a
  a66f,a672 a674,a67d a69e,a69f a6f0,a6f1 a802 a806 a80b a823,a827 a82c a880,a881 a8b4,a8c5
  a8e0,a8f1 a8ff a926,a92d a947,a953 a980,a983 a9b3,a9c0 a9e5 aa29,aa36 aa43 aa4c,aa4d aa7b,aa7d
  aab0 aab2,aab4 aab7,aab8 aabe,aabf aac1 aaeb,aaef aaf5,aaf6 abe3,abea abec,abed fb1e fe00,fe0f
  fe20,fe2f 101fd 102e0 10376,1037a 10a01,10a03 10a05,10a06 10a0c,10a0f 10a38,10a3a 10a3f
  10ae5,10ae6 10d24,10d27 10eab,10eac 10f46,10f50 10f82,10f85 11000,11002 11038,11046 11070
  11073,11074 1107f,11082 110b0,110ba 110c2 11100,11102 11127,11134 11145,11146 11173
  11180,11182 111b3,111c0 111c9,111cc 111ce,111cf 1122c,11237 1123e 112df,112ea 11300,11303
  1133b,1133c 1133e,11344 11347,11348 1134b,1134d 11357 11362,11363 11366,1136c 11370,11374
  11435,11446 1145e 114b0,114c3 115af,115b5 115b8,115c0 115dc,115dd 11630,11640 116ab,116b7
  1171d,1172b 1182c,1183a 11930,11935 11937,11938 1193b,1193e 11940 11942,11943 119d1,119d7
  119da,119e0 119e4 11a01,11a0a 11a33,11a39 11a3b,11a3e 11a47 11a51,11a5b 11a8a,11a99
  11c2f,11c36 11c38,11c3f 11c92,11ca7 11ca9,11cb6 11d31,11d36 11d3a 11d3c,11d3d 11d3f,11d45
  11d47 11d8a,11d8e 11d90,11d91 11d93,11d97 11ef3,11ef6 16af0,16af4 16b30,16b36 16f4f
  16f51,16f87 16f8f,16f92 16fe4 16ff0,16ff1 1bc9d,1bc9e 1cf00,1cf2d 1cf30,1cf46 1d165,1d169
  1d16d,1d172 1d17b,1d182 1d185,1d18b 1d1aa,1d1ad 1d242,1d244 1da00,1da36 1da3b,1da6c 1da75
  1da84 1da9b,1da9f 1daa1,1daaf 1e000,1e006 1e008,1e018 1e01b,1e021 1e023,1e024 1e026,1e02a
  1e130,1e136 1e2ae 1e2ec,1e2ef 1e8d0,1e8d6 1e944,1e94a e0100,e01ef"

end Courier.Idna
