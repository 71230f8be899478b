import Letterbox.Mime.CharsetTable
import Letterbox.Mime.EastAsian
import Letterbox.Mime.Utf7

namespace Letterbox.Mime

abbrev Charset := Bytes → List Char

namespace Charset

def singleByte (upper : String) : Charset :=
  let table := upper.toList.toArray
  fun s => s.map fun b =>
    if b < 0x80 then Char.ofNat b.toNat else table.getD (b.toNat - 128) '\uFFFD'

def utf16le : Charset := fun s => Units.joined (Units.ofBytes false s)

def utf16be : Charset := fun s => Units.joined (Units.ofBytes true s)

def utf16 : Charset
  | 0xFE :: 0xFF :: rest => utf16be rest
  | 0xFF :: 0xFE :: rest => utf16le rest
  | s => utf16le s

def utf8 : Charset := Text.decode

open CharsetTable in
def known : List (List String × Charset) := [
  (["utf-8", "utf8", "us-ascii", "ascii"], utf8),
  (["utf-16", "csutf16"], utf16),
  (["utf-16le", "csutf16le"], utf16le),
  (["utf-16be", "csutf16be"], utf16be),
  (["utf-7", "csutf7"], Utf7.read),
  (["iso-8859-1", "iso_8859-1", "iso8859-1", "iso_8859-1:1987", "iso-ir-100", "latin1", "l1",
    "ibm819", "cp819", "csisolatin1"], singleByte latin1),
  (["iso-8859-2", "iso_8859-2", "iso_8859-2:1987", "iso-ir-101", "latin2", "l2", "csisolatin2"],
    singleByte latin2),
  (["iso-8859-3", "iso_8859-3", "iso_8859-3:1988", "iso-ir-109", "latin3", "l3", "csisolatin3"],
    singleByte latin3),
  (["iso-8859-4", "iso_8859-4", "iso_8859-4:1988", "iso-ir-110", "latin4", "l4", "csisolatin4"],
    singleByte latin4),
  (["iso-8859-5", "iso_8859-5", "iso_8859-5:1988", "iso-ir-144", "cyrillic",
    "csisolatincyrillic"], singleByte latin5),
  (["iso-8859-6", "iso_8859-6", "iso_8859-6:1987", "iso-ir-127", "ecma-114", "asmo-708", "arabic",
    "csisolatinarabic"], singleByte latin6),
  (["iso-8859-7", "iso_8859-7", "iso_8859-7:1987", "iso-ir-126", "elot_928", "ecma-118", "greek",
    "greek8", "csisolatingreek"], singleByte latin7),
  (["iso-8859-8", "iso_8859-8", "iso_8859-8:1988", "iso-ir-138", "hebrew", "csisolatinhebrew"],
    singleByte latin8),
  (["iso-8859-9", "iso_8859-9", "iso_8859-9:1989", "iso-ir-148", "latin5", "l5", "csisolatin5"],
    singleByte latin9),
  (["iso-8859-10", "iso_8859-10:1992", "iso-ir-157", "latin6", "l6", "csisolatin6"],
    singleByte latin10),
  (["iso-8859-13", "csiso885913"], singleByte latin13),
  (["iso-8859-14", "iso_8859-14", "iso_8859-14:1998", "iso-ir-199", "latin8", "iso-celtic", "l8",
    "csiso885914"], singleByte latin14),
  (["iso-8859-15", "iso_8859-15", "latin-9", "csiso885915"], singleByte latin15),
  (["iso-8859-16", "iso_8859-16", "iso_8859-16:2001", "iso-ir-226", "latin10", "l10",
    "csiso885916"], singleByte latin16),
  (["windows-1250", "cp1250", "cswindows1250"], singleByte windows1250),
  (["windows-1251", "cp1251", "cswindows1251"], singleByte windows1251),
  (["windows-1252", "cp1252", "cswindows1252"], singleByte windows1252),
  (["windows-1253", "cp1253", "cswindows1253"], singleByte windows1253),
  (["windows-1254", "cp1254", "cswindows1254"], singleByte windows1254),
  (["windows-1255", "cp1255", "cswindows1255"], singleByte windows1255),
  (["windows-1256", "cp1256", "cswindows1256"], singleByte windows1256),
  (["windows-1257", "cp1257", "cswindows1257"], singleByte windows1257),
  (["windows-1258", "cp1258", "cswindows1258"], singleByte windows1258),
  (["koi8-r", "cskoi8r"], singleByte koi8r),
  (["koi8-u", "cskoi8u"], singleByte koi8u),
  (["macintosh", "mac", "csmacintosh"], singleByte macintosh),
  (["ibm850", "cp850", "850", "cspc850multilingual"], singleByte ibm850),
  (["ibm866", "cp866", "866", "csibm866"], singleByte ibm866),
  (["tis-620", "cstis620", "iso-8859-11"], singleByte thai),
  (["shift_jis", "ms_kanji", "csshiftjis"], EastAsian.shiftJis),
  (["euc-jp", "extended_unix_code_packed_format_for_japanese", "cseucpkdfmtjapanese"],
    EastAsian.eucJp),
  (["iso-2022-jp", "csiso2022jp"], EastAsian.iso2022Jp),
  (["gbk", "cp936", "ms936", "windows-936", "csgbk", "gb18030", "csgb18030", "gb2312",
    "csgb2312"], EastAsian.gb18030),
  (["big5", "csbig5"], EastAsian.big5),
  (["euc-kr", "cseuckr", "ks_c_5601-1987", "ks_c_5601-1989", "ksc_5601", "korean", "iso-ir-149",
    "csksc56011987"], EastAsian.eucKr)]

def ofName? (name : Bytes) : Option Charset :=
  let name := name.map lowerByte
  (known.find? fun e => e.1.any fun n => ascii n == name).map (·.2)

end Charset

end Letterbox.Mime
