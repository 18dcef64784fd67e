import LogFollow.Text.MultiByte.Big5
import LogFollow.Text.MultiByte.EucJp
import LogFollow.Text.MultiByte.EucKr
import LogFollow.Text.MultiByte.Gb18030
import LogFollow.Text.MultiByte.Iso2022Jp
import LogFollow.Text.MultiByte.ShiftJis
import LogFollow.Text.Table.SingleByte
import LogFollow.Text.Utf16
import LogFollow.Text.Utf8

/-!
# Character sets

The character sets of the encoding standard, with the name and the labels of each, and the text that
a byte string has in each. Decoding is total: what is malformed becomes U+FFFD. A byte order mark is
a character like any other.
-/

namespace LogFollow.Text

/-- The character sets with one byte to a character. -/
inductive SingleByte
  | ibm866
  | iso2
  | iso3
  | iso4
  | iso5
  | iso6
  | iso7
  | iso8
  | iso8Logical
  | iso10
  | iso13
  | iso14
  | iso15
  | iso16
  | koi8R
  | koi8U
  | macintosh
  | windows874
  | windows1250
  | windows1251
  | windows1252
  | windows1253
  | windows1254
  | windows1255
  | windows1256
  | windows1257
  | windows1258
  | macCyrillic
deriving DecidableEq, Repr

namespace SingleByte

def all : List SingleByte :=
  [.ibm866, .iso2, .iso3, .iso4, .iso5, .iso6, .iso7, .iso8, .iso8Logical, .iso10, .iso13,
   .iso14, .iso15, .iso16, .koi8R, .koi8U, .macintosh, .windows874, .windows1250, .windows1251,
   .windows1252, .windows1253, .windows1254, .windows1255, .windows1256, .windows1257,
   .windows1258, .macCyrillic]

def name : SingleByte → String
  | .ibm866 => "IBM866"
  | .iso2 => "ISO-8859-2"
  | .iso3 => "ISO-8859-3"
  | .iso4 => "ISO-8859-4"
  | .iso5 => "ISO-8859-5"
  | .iso6 => "ISO-8859-6"
  | .iso7 => "ISO-8859-7"
  | .iso8 => "ISO-8859-8"
  | .iso8Logical => "ISO-8859-8-I"
  | .iso10 => "ISO-8859-10"
  | .iso13 => "ISO-8859-13"
  | .iso14 => "ISO-8859-14"
  | .iso15 => "ISO-8859-15"
  | .iso16 => "ISO-8859-16"
  | .koi8R => "KOI8-R"
  | .koi8U => "KOI8-U"
  | .macintosh => "macintosh"
  | .windows874 => "windows-874"
  | .windows1250 => "windows-1250"
  | .windows1251 => "windows-1251"
  | .windows1252 => "windows-1252"
  | .windows1253 => "windows-1253"
  | .windows1254 => "windows-1254"
  | .windows1255 => "windows-1255"
  | .windows1256 => "windows-1256"
  | .windows1257 => "windows-1257"
  | .windows1258 => "windows-1258"
  | .macCyrillic => "x-mac-cyrillic"

def labels : SingleByte → List String
  | .ibm866 =>
    ["866", "cp866", "csibm866", "ibm866"]
  | .iso2 =>
    ["csisolatin2", "iso-8859-2", "iso-ir-101", "iso8859-2", "iso88592", "iso_8859-2",
     "iso_8859-2:1987", "l2", "latin2"]
  | .iso3 =>
    ["csisolatin3", "iso-8859-3", "iso-ir-109", "iso8859-3", "iso88593", "iso_8859-3",
     "iso_8859-3:1988", "l3", "latin3"]
  | .iso4 =>
    ["csisolatin4", "iso-8859-4", "iso-ir-110", "iso8859-4", "iso88594", "iso_8859-4",
     "iso_8859-4:1988", "l4", "latin4"]
  | .iso5 =>
    ["csisolatincyrillic", "cyrillic", "iso-8859-5", "iso-ir-144", "iso8859-5", "iso88595",
     "iso_8859-5", "iso_8859-5:1988"]
  | .iso6 =>
    ["arabic", "asmo-708", "csiso88596e", "csiso88596i", "csisolatinarabic", "ecma-114",
     "iso-8859-6", "iso-8859-6-e", "iso-8859-6-i", "iso-ir-127", "iso8859-6", "iso88596",
     "iso_8859-6", "iso_8859-6:1987"]
  | .iso7 =>
    ["csisolatingreek", "ecma-118", "elot_928", "greek", "greek8", "iso-8859-7", "iso-ir-126",
     "iso8859-7", "iso88597", "iso_8859-7", "iso_8859-7:1987", "sun_eu_greek"]
  | .iso8 =>
    ["csiso88598e", "csisolatinhebrew", "hebrew", "iso-8859-8", "iso-8859-8-e", "iso-ir-138",
     "iso8859-8", "iso88598", "iso_8859-8", "iso_8859-8:1988", "visual"]
  | .iso8Logical =>
    ["csiso88598i", "iso-8859-8-i", "logical"]
  | .iso10 =>
    ["csisolatin6", "iso-8859-10", "iso-ir-157", "iso8859-10", "iso885910", "l6", "latin6"]
  | .iso13 =>
    ["iso-8859-13", "iso8859-13", "iso885913"]
  | .iso14 =>
    ["iso-8859-14", "iso8859-14", "iso885914"]
  | .iso15 =>
    ["csisolatin9", "iso-8859-15", "iso8859-15", "iso885915", "iso_8859-15", "l9"]
  | .iso16 =>
    ["iso-8859-16"]
  | .koi8R =>
    ["cskoi8r", "koi", "koi8", "koi8-r", "koi8_r"]
  | .koi8U =>
    ["koi8-ru", "koi8-u"]
  | .macintosh =>
    ["csmacintosh", "mac", "macintosh", "x-mac-roman"]
  | .windows874 =>
    ["dos-874", "iso-8859-11", "iso8859-11", "iso885911", "tis-620", "windows-874"]
  | .windows1250 =>
    ["cp1250", "windows-1250", "x-cp1250"]
  | .windows1251 =>
    ["cp1251", "windows-1251", "x-cp1251"]
  | .windows1252 =>
    ["ansi_x3.4-1968", "ascii", "cp1252", "cp819", "csisolatin1", "ibm819", "iso-8859-1",
     "iso-ir-100", "iso8859-1", "iso88591", "iso_8859-1", "iso_8859-1:1987", "l1", "latin1",
     "us-ascii", "windows-1252", "x-cp1252"]
  | .windows1253 =>
    ["cp1253", "windows-1253", "x-cp1253"]
  | .windows1254 =>
    ["cp1254", "csisolatin5", "iso-8859-9", "iso-ir-148", "iso8859-9", "iso88599", "iso_8859-9",
     "iso_8859-9:1989", "l5", "latin5", "windows-1254", "x-cp1254"]
  | .windows1255 =>
    ["cp1255", "windows-1255", "x-cp1255"]
  | .windows1256 =>
    ["cp1256", "windows-1256", "x-cp1256"]
  | .windows1257 =>
    ["cp1257", "windows-1257", "x-cp1257"]
  | .windows1258 =>
    ["cp1258", "windows-1258", "x-cp1258"]
  | .macCyrillic =>
    ["x-mac-cyrillic", "x-mac-ukrainian"]

/-- The characters of the bytes `80` to `FF`. -/
def upperHalf : SingleByte → String
  | .ibm866 => Table.ibm866
  | .iso2 => Table.iso2
  | .iso3 => Table.iso3
  | .iso4 => Table.iso4
  | .iso5 => Table.iso5
  | .iso6 => Table.iso6
  | .iso7 => Table.iso7
  | .iso8 => Table.iso8
  | .iso8Logical => Table.iso8
  | .iso10 => Table.iso10
  | .iso13 => Table.iso13
  | .iso14 => Table.iso14
  | .iso15 => Table.iso15
  | .iso16 => Table.iso16
  | .koi8R => Table.koi8R
  | .koi8U => Table.koi8U
  | .macintosh => Table.macintosh
  | .windows874 => Table.windows874
  | .windows1250 => Table.windows1250
  | .windows1251 => Table.windows1251
  | .windows1252 => Table.windows1252
  | .windows1253 => Table.windows1253
  | .windows1254 => Table.windows1254
  | .windows1255 => Table.windows1255
  | .windows1256 => Table.windows1256
  | .windows1257 => Table.windows1257
  | .windows1258 => Table.windows1258
  | .macCyrillic => Table.macCyrillic

/-- The character of a byte, where `upper` holds those of the bytes from `80` on. -/
def char (upper : Array Char) (b : UInt8) : Char :=
  if b < 0x80 then Char.ofNat b.toNat else (upper[b.toNat - 0x80]?).getD replacement

def automaton (set : SingleByte) : Automaton Unit :=
  let upper := (Table.cells set.upperHalf).toArray
  { start := (), step := fun _ b => ([char upper b], ()), flush := fun _ => [] }

end SingleByte

inductive Charset
  | utf8
  | utf16le
  | utf16be
  | singleByte (set : SingleByte)
  | gbk
  | gb18030
  | big5
  | eucJp
  | iso2022Jp
  | shiftJis
  | eucKr
  | replacement
  | userDefined
deriving DecidableEq, Repr

namespace Charset

def all : List Charset :=
  [.utf8, .utf16le, .utf16be, .gbk, .gb18030, .big5, .eucJp, .iso2022Jp, .shiftJis, .eucKr,
    .replacement, .userDefined] ++ SingleByte.all.map .singleByte

def name : Charset → String
  | .utf8 => "UTF-8"
  | .utf16le => "UTF-16LE"
  | .utf16be => "UTF-16BE"
  | .gbk => "GBK"
  | .gb18030 => "gb18030"
  | .big5 => "Big5"
  | .eucJp => "EUC-JP"
  | .iso2022Jp => "ISO-2022-JP"
  | .shiftJis => "Shift_JIS"
  | .eucKr => "EUC-KR"
  | .replacement => "replacement"
  | .userDefined => "x-user-defined"
  | .singleByte set => set.name

def labels : Charset → List String
  | .utf8 =>
    ["unicode-1-1-utf-8", "unicode11utf8", "unicode20utf8", "utf-8", "utf8", "x-unicode20utf8"]
  | .utf16le =>
    ["csunicode", "iso-10646-ucs-2", "ucs-2", "unicode", "unicodefeff", "utf-16", "utf-16le"]
  | .utf16be =>
    ["unicodefffe", "utf-16be"]
  | .gbk =>
    ["chinese", "csgb2312", "csiso58gb231280", "gb2312", "gb_2312", "gb_2312-80", "gbk",
     "iso-ir-58", "x-gbk"]
  | .gb18030 =>
    ["gb18030"]
  | .big5 =>
    ["big5", "big5-hkscs", "cn-big5", "csbig5", "x-x-big5"]
  | .eucJp =>
    ["cseucpkdfmtjapanese", "euc-jp", "x-euc-jp"]
  | .iso2022Jp =>
    ["csiso2022jp", "iso-2022-jp"]
  | .shiftJis =>
    ["csshiftjis", "ms932", "ms_kanji", "shift-jis", "shift_jis", "sjis", "windows-31j", "x-sjis"]
  | .eucKr =>
    ["cseuckr", "csksc56011987", "euc-kr", "iso-ir-149", "korean", "ks_c_5601-1987",
     "ks_c_5601-1989", "ksc5601", "ksc_5601", "windows-949"]
  | .replacement =>
    ["csiso2022kr", "hz-gb-2312", "iso-2022-cn", "iso-2022-cn-ext", "iso-2022-kr", "replacement"]
  | .userDefined =>
    ["x-user-defined"]
  | .singleByte set => set.labels

/-- The character set with a label. -/
def ofLabel? (label : String) : Option Charset := all.find? (·.labels.contains label)

/-- The decoder of the sets in which every byte from `80` on is a private use character. -/
def userDefinedAutomaton : Automaton Unit where
  start := ()
  step _ b :=
    ([if b < 0x80 then Char.ofNat b.toNat else charOfCode (0xF780 + (b.toNat - 0x80))], ())
  flush _ := []

/-- The decoder that turns any text but the empty one into a single U+FFFD. Its state tells whether
a byte was read. -/
def replacementAutomaton : Automaton Bool where
  start := false
  step seen _ := (if seen then [] else [Text.replacement], true)
  flush _ := []

def chars (bytes : Bytes) : Charset → List Char
  | .utf8 => Utf8.automaton.run bytes
  | .utf16le => (Utf16.automaton .little).run bytes
  | .utf16be => (Utf16.automaton .big).run bytes
  | .singleByte set => set.automaton.run bytes
  | .gbk | .gb18030 => MultiByte.Gb18030.automaton.run bytes
  | .big5 => MultiByte.Big5.automaton.run bytes
  | .eucJp => MultiByte.EucJp.automaton.run bytes
  | .iso2022Jp => MultiByte.Iso2022Jp.automaton.run bytes
  | .shiftJis => MultiByte.ShiftJis.automaton.run bytes
  | .eucKr => MultiByte.EucKr.automaton.run bytes
  | .replacement => replacementAutomaton.run bytes
  | .userDefined => userDefinedAutomaton.run bytes

def decode (set : Charset) (bytes : Bytes) : String := String.ofList (set.chars bytes)

end Charset

end LogFollow.Text
