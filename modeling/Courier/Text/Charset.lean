/-
  Charsets: how the octets of a body become text.

  A charset is found by its label: case, and the kind and number of punctuation marks, do not matter,
  and each charset has some further labels.  Reading never fails: what a charset does not define
  becomes a replacement character.  The sixteen and thirty-two bit forms take their byte order from a
  mark at the start when the label leaves it open, and little-endian order without one.
-/
import Courier.Text.Utf8
import Courier.Text.Narrow

namespace Courier

/-- Byte order of the wide forms. -/
inductive Endian
  | little
  | big
  deriving DecidableEq, Repr

/-- The charsets that a body can be read in. -/
inductive Charset
  | utf8
  | utf8Marked
  | utf16 (order : Option Endian)
  | utf32 (order : Option Endian)
  | latin1
  | ascii
  | windows1252
  | codePage437
  | latin9
  deriving DecidableEq, Repr

namespace Charset

/-! ## Labels -/

/-- A label in its common spelling: lower case, runs of other characters than letters, digits and
    dots as one low line, none at the ends. -/
def spelling (label : Text) : Text :=
  let words := (label.splitOnP fun c => !(c.isAlphanum || c == '.')).filter (!·.isEmpty)
  (['_'].intercalate words).map Char.toLower

/-- The labels of each charset, in their common spelling. -/
def labels : List (Charset × List String) :=
  [(.utf8, ["utf_8", "u8", "utf", "utf8", "utf8_ucs2", "utf8_ucs4", "cp65001"]),
   (.utf8Marked, ["utf_8_sig"]),
   (.utf16 none, ["utf_16", "u16", "utf16"]),
   (.utf16 (some .little), ["utf_16_le", "unicodelittleunmarked", "utf_16le"]),
   (.utf16 (some .big), ["utf_16_be", "unicodebigunmarked", "utf_16be"]),
   (.utf32 none, ["utf_32", "u32", "utf32"]),
   (.utf32 (some .little), ["utf_32_le", "utf_32le"]),
   (.utf32 (some .big), ["utf_32_be", "utf_32be"]),
   (.latin1, ["latin_1", "8859", "cp819", "csisolatin1", "ibm819", "iso8859", "iso8859_1",
     "iso_8859_1", "iso_8859_1_1987", "iso_ir_100", "l1", "latin", "latin1"]),
   (.ascii, ["ascii", "646", "ansi_x3.4_1968", "ansi_x3_4_1968", "ansi_x3.4_1986", "cp367",
     "csascii", "ibm367", "iso646_us", "iso_646.irv_1991", "iso_ir_6", "us", "us_ascii"]),
   (.windows1252, ["cp1252", "1252", "windows_1252"]),
   (.codePage437, ["cp437", "437", "cspc8codepage437", "ibm437"]),
   (.latin9, ["iso8859_15", "iso_8859_15", "l9", "latin9"])]

/-- The charset of a label in its common spelling. -/
def ofSpelling? (s : Text) : Option Charset :=
  (labels.find? fun entry => entry.2.any fun name => name.toList == s).map (·.1)

/-- The charset of a label; dots count as low lines when they lead nowhere. -/
def ofLabel? (label : Text) : Option Charset :=
  let s := spelling label
  match ofSpelling? s with
  | some c => some c
  | none =>
    -- a further label may be written with low lines for dots, a charset's own name may not
    (labels.find? fun entry =>
      entry.2.tail.any fun name => name.toList == s.map fun c => if c = '.' then '_' else c).map (·.1)

/-! ## Single octets -/

/-- Code points of the upper half of Windows-1252 from 0x80 to 0x9f; zero where it has none. -/
def windows1252Upper : List Nat :=
  [0x20ac, 0, 0x201a, 0x192, 0x201e, 0x2026, 0x2020, 0x2021, 0x2c6, 0x2030, 0x160, 0x2039, 0x152, 0,
   0x17d, 0, 0, 0x2018, 0x2019, 0x201c, 0x201d, 0x2022, 0x2013, 0x2014, 0x2dc, 0x2122, 0x161, 0x203a,
   0x153, 0, 0x17e, 0x178]

/-- Code points of the upper half of code page 437. -/
def codePage437Upper : List Nat :=
  [0xc7, 0xfc, 0xe9, 0xe2, 0xe4, 0xe0, 0xe5, 0xe7, 0xea, 0xeb, 0xe8, 0xef, 0xee, 0xec, 0xc4, 0xc5,
   0xc9, 0xe6, 0xc6, 0xf4, 0xf6, 0xf2, 0xfb, 0xf9, 0xff, 0xd6, 0xdc, 0xa2, 0xa3, 0xa5, 0x20a7, 0x192,
   0xe1, 0xed, 0xf3, 0xfa, 0xf1, 0xd1, 0xaa, 0xba, 0xbf, 0x2310, 0xac, 0xbd, 0xbc, 0xa1, 0xab, 0xbb,
   0x2591, 0x2592, 0x2593, 0x2502, 0x2524, 0x2561, 0x2562, 0x2556, 0x2555, 0x2563, 0x2551, 0x2557,
   0x255d, 0x255c, 0x255b, 0x2510, 0x2514, 0x2534, 0x252c, 0x251c, 0x2500, 0x253c, 0x255e, 0x255f,
   0x255a, 0x2554, 0x2569, 0x2566, 0x2560, 0x2550, 0x256c, 0x2567, 0x2568, 0x2564, 0x2565, 0x2559,
   0x2558, 0x2552, 0x2553, 0x256b, 0x256a, 0x2518, 0x250c, 0x2588, 0x2584, 0x258c, 0x2590, 0x2580,
   0x3b1, 0xdf, 0x393, 0x3c0, 0x3a3, 0x3c3, 0xb5, 0x3c4, 0x3a6, 0x398, 0x3a9, 0x3b4, 0x221e, 0x3c6,
   0x3b5, 0x2229, 0x2261, 0xb1, 0x2265, 0x2264, 0x2320, 0x2321, 0xf7, 0x2248, 0xb0, 0x2219, 0xb7,
   0x221a, 0x207f, 0xb2, 0x25a0, 0xa0]

/-- Where the ninth Latin alphabet differs from the first. -/
def latin9Changes : List (Nat × Nat) :=
  [(0xa4, 0x20ac), (0xa6, 0x160), (0xa8, 0x161), (0xb4, 0x17d), (0xb8, 0x17e), (0xbc, 0x152),
   (0xbd, 0x153), (0xbe, 0x178)]

/-- The character of one octet in Windows-1252. -/
def windows1252Char (b : Nat) : Char :=
  if b < 0x80 ∨ 0xa0 ≤ b then Char.ofNat b
  else match windows1252Upper.getD (b - 0x80) 0 with
    | 0 => replacement
    | n => Char.ofNat n

/-- The character of one octet in code page 437. -/
def codePage437Char (b : Nat) : Char :=
  if b < 0x80 then Char.ofNat b else Char.ofNat (codePage437Upper.getD (b - 0x80) 0xfffd)

/-- The character of one octet in the ninth Latin alphabet. -/
def latin9Char (b : Nat) : Char := Char.ofNat ((latin9Changes.lookup b).getD b)

/-- The character of one octet in ASCII. -/
def asciiChar (b : Nat) : Char := if b < 0x80 then Char.ofNat b else replacement

/-! ## Wide units -/

/-- The units of a wide form from groups of octets in reading order, and the number of octets left
    over at the end. -/
def units (width : Nat) (order : Endian) (b : Bytes) : List Nat × Nat :=
  let (done, _, _) := b.foldl (fun (done, group, n) x =>
      let value := match order with
        | .big => group * 256 + x.toNat
        | .little => group + x.toNat * Nat.pow 256 n
      if n + 1 = width then (value :: done, 0, 0) else (done, value, n + 1))
    (([] : List Nat), 0, 0)
  (done.reverse, b.length % width)

/-- Sixteen bit units as text, in reverse: a pair of surrogates is one character, a lone one a
    replacement; a high surrogate at the end and what is left over are one replacement. -/
def pairUnits (left : Nat) (done : Text) : List Nat → Text
  | [] => if left = 0 then done else replacement :: done
  | [u] =>
    if 0xd800 ≤ u ∧ u < 0xdc00 then replacement :: done
    else
      let c := if 0xdc00 ≤ u ∧ u < 0xe000 then replacement else Char.ofNat u
      if left = 0 then c :: done else replacement :: c :: done
  | u :: v :: rest =>
    if 0xd800 ≤ u ∧ u < 0xdc00 then
      if 0xdc00 ≤ v ∧ v < 0xe000 then
        pairUnits left (Char.ofNat (0x10000 + (u - 0xd800) * 1024 + (v - 0xdc00)) :: done) rest
      else pairUnits left (replacement :: done) (v :: rest)
    else if 0xdc00 ≤ u ∧ u < 0xe000 then pairUnits left (replacement :: done) (v :: rest)
    else pairUnits left (Char.ofNat u :: done) (v :: rest)

/-- The character of a thirty-two bit unit. -/
def wideChar (u : Nat) : Char := if u.isValidChar then Char.ofNat u else replacement

/-- Reads sixteen bit units in an order. -/
def readUtf16 (order : Endian) (b : Bytes) : Text :=
  let (us, left) := units 2 order b
  (pairUnits left [] us).reverse

/-- Reads thirty-two bit units in an order. -/
def readUtf32 (order : Endian) (b : Bytes) : Text :=
  let (us, left) := units 4 order b
  us.map wideChar ++ (if left = 0 then [] else [replacement])

/-! ## Reading -/

/-- Reads octets as text. -/
def read (charset : Charset) (b : Bytes) : Text :=
  match charset, b with
  | .utf8, b => ofUtf8 b
  | .utf8Marked, 0xef :: 0xbb :: 0xbf :: rest => ofUtf8 rest
  | .utf8Marked, b => ofUtf8 b
  | .utf16 none, 0xff :: 0xfe :: rest => readUtf16 .little rest
  | .utf16 none, 0xfe :: 0xff :: rest => readUtf16 .big rest
  | .utf16 order, b => readUtf16 (order.getD .little) b
  | .utf32 none, 0xff :: 0xfe :: 0 :: 0 :: rest => readUtf32 .little rest
  | .utf32 none, 0 :: 0 :: 0xfe :: 0xff :: rest => readUtf32 .big rest
  | .utf32 order, b => readUtf32 (order.getD .little) b
  | .latin1, b => ofLatin1 b
  | .ascii, b => b.map fun x => asciiChar x.toNat
  | .windows1252, b => b.map fun x => windows1252Char x.toNat
  | .codePage437, b => b.map fun x => codePage437Char x.toNat
  | .latin9, b => b.map fun x => latin9Char x.toNat

/-- Reads octets under a label; a label that names no charset reads as eight-bit. -/
def readLabelled (label : Text) (b : Bytes) : Text := ((ofLabel? label).getD .utf8).read b

end Charset

end Courier
