/-!
# `AttrTemplates.Text.Charset.Names`: the names of charsets

A charset has one name by which the tables know it, and others. Data may use any of them in any
spelling; the names that documents use are registered ones, of which only the case is free.
-/

set_option autoImplicit false

namespace AttrTemplates.Text

/-- The other names that data use for charsets, with underscores between their parts. -/
def dataNames : List (String × List String) := [
  ("ascii", ["646", "ansi_x3.4_1968", "ansi_x3.4_1986", "ansi_x3_4_1968", "cp367", "csascii", "ibm367",
    "iso646_us", "iso_646.irv_1991", "iso_ir_6", "us", "us_ascii"]),
  ("base64_codec", ["base64", "base_64"]),
  ("big5", ["big5_tw", "csbig5", "x_mac_trad_chinese"]),
  ("bz2_codec", ["bz2"]),
  ("cp037", ["037", "csibm037", "ebcdic_cp_ca", "ebcdic_cp_nl", "ebcdic_cp_us", "ebcdic_cp_wt",
    "ibm037", "ibm039"]),
  ("cp1026", ["1026", "csibm1026", "ibm1026"]),
  ("cp1125", ["1125", "cp866u", "ibm1125", "ruscii"]),
  ("cp1140", ["1140", "ibm1140"]),
  ("cp1250", ["1250", "windows_1250"]),
  ("cp1251", ["1251", "windows_1251"]),
  ("cp1252", ["1252", "windows_1252"]),
  ("cp1253", ["1253", "windows_1253"]),
  ("cp1254", ["1254", "windows_1254"]),
  ("cp1255", ["1255", "windows_1255"]),
  ("cp1256", ["1256", "windows_1256"]),
  ("cp1257", ["1257", "windows_1257"]),
  ("cp1258", ["1258", "windows_1258"]),
  ("cp273", ["273", "csibm273", "ibm273"]),
  ("cp424", ["424", "csibm424", "ebcdic_cp_he", "ibm424"]),
  ("cp437", ["437", "cspc8codepage437", "ibm437"]),
  ("cp500", ["500", "csibm500", "ebcdic_cp_be", "ebcdic_cp_ch", "ibm500"]),
  ("cp775", ["775", "cspc775baltic", "ibm775"]),
  ("cp850", ["850", "cspc850multilingual", "ibm850"]),
  ("cp852", ["852", "cspcp852", "ibm852"]),
  ("cp855", ["855", "csibm855", "ibm855"]),
  ("cp857", ["857", "csibm857", "ibm857"]),
  ("cp858", ["858", "csibm858", "ibm858"]),
  ("cp860", ["860", "csibm860", "ibm860"]),
  ("cp861", ["861", "cp_is", "csibm861", "ibm861"]),
  ("cp862", ["862", "cspc862latinhebrew", "ibm862"]),
  ("cp863", ["863", "csibm863", "ibm863"]),
  ("cp864", ["864", "csibm864", "ibm864"]),
  ("cp865", ["865", "csibm865", "ibm865"]),
  ("cp866", ["866", "csibm866", "ibm866"]),
  ("cp869", ["869", "cp_gr", "csibm869", "ibm869"]),
  ("cp932", ["932", "ms932", "ms_kanji", "mskanji"]),
  ("cp949", ["949", "ms949", "uhc"]),
  ("cp950", ["950", "ms950"]),
  ("euc_jp", ["eucjp", "u_jis", "ujis"]),
  ("euc_kr", ["euckr", "korean", "ks_c_5601", "ks_c_5601_1987", "ks_x_1001", "ksc5601", "ksx1001",
    "x_mac_korean"]),
  ("gb18030", ["gb18030_2000"]),
  ("gb2312", ["chinese", "csiso58gb231280", "euc_cn", "euccn", "eucgb2312_cn", "gb2312_1980",
    "gb2312_80", "iso_ir_58", "x_mac_simp_chinese"]),
  ("gbk", ["936", "cp936", "ms936"]),
  ("hex_codec", ["hex"]),
  ("hz", ["hzgb", "hz_gb", "hz_gb_2312"]),
  ("hp_roman8", ["cp1051", "csHPRoman8", "ibm1051", "r8", "roman8"]),
  ("iso2022_jp", ["csiso2022jp", "iso2022jp", "iso_2022_jp"]),
  ("iso8859_10", ["csisolatin6", "iso_8859_10", "iso_8859_10_1992", "iso_ir_157", "l6", "latin6"]),
  ("iso8859_11", ["iso_8859_11", "iso_8859_11_2001", "thai"]),
  ("iso8859_13", ["iso_8859_13", "l7", "latin7"]),
  ("iso8859_14", ["iso_8859_14", "iso_8859_14_1998", "iso_celtic", "iso_ir_199", "l8", "latin8"]),
  ("iso8859_15", ["iso_8859_15", "l9", "latin9"]),
  ("iso8859_16", ["iso_8859_16", "iso_8859_16_2001", "iso_ir_226", "l10", "latin10"]),
  ("iso8859_2", ["csisolatin2", "iso_8859_2", "iso_8859_2_1987", "iso_ir_101", "l2", "latin2"]),
  ("iso8859_3", ["csisolatin3", "iso_8859_3", "iso_8859_3_1988", "iso_ir_109", "l3", "latin3"]),
  ("iso8859_4", ["csisolatin4", "iso_8859_4", "iso_8859_4_1988", "iso_ir_110", "l4", "latin4"]),
  ("iso8859_5", ["csisolatincyrillic", "cyrillic", "iso_8859_5", "iso_8859_5_1988", "iso_ir_144"]),
  ("iso8859_6", ["arabic", "asmo_708", "csisolatinarabic", "ecma_114", "iso_8859_6", "iso_8859_6_1987",
    "iso_ir_127"]),
  ("iso8859_7", ["csisolatingreek", "ecma_118", "elot_928", "greek", "greek8", "iso_8859_7",
    "iso_8859_7_1987", "iso_ir_126"]),
  ("iso8859_8", ["csisolatinhebrew", "hebrew", "iso_8859_8", "iso_8859_8_1988", "iso_ir_138"]),
  ("iso8859_9", ["csisolatin5", "iso_8859_9", "iso_8859_9_1989", "iso_ir_148", "l5", "latin5"]),
  ("koi8_r", ["cskoi8r"]),
  ("kz1048", ["kz_1048", "rk1048", "strk1048_2002"]),
  ("latin_1", ["8859", "cp819", "csisolatin1", "ibm819", "iso8859", "iso8859_1", "iso8859_1",
    "iso_8859_1", "iso_8859_1_1987", "iso_ir_100", "l1", "latin", "latin1"]),
  ("mac_cyrillic", ["maccyrillic"]),
  ("mac_greek", ["macgreek"]),
  ("mac_iceland", ["maciceland"]),
  ("mac_latin2", ["mac_centeuro", "maccentraleurope", "maclatin2"]),
  ("mac_roman", ["macintosh", "macroman"]),
  ("mac_turkish", ["macturkish"]),
  ("ptcp154", ["cp154", "csptcp154", "cyrillic_asian", "pt154"]),
  ("quopri_codec", ["quopri", "quoted_printable", "quotedprintable"]),
  ("rot_13", ["rot13"]),
  ("shift_jis", ["csshiftjis", "s_jis", "shiftjis", "sjis", "x_mac_japanese"]),
  ("tis_620", ["iso_ir_166", "tis620", "tis_620_0", "tis_620_2529_0", "tis_620_2529_1"]),
  ("utf_16", ["u16", "utf16"]),
  ("utf_16_be", ["unicodebigunmarked", "utf_16be"]),
  ("utf_16_le", ["unicodelittleunmarked", "utf_16le"]),
  ("utf_32", ["u32", "utf32"]),
  ("utf_32_be", ["utf_32be"]),
  ("utf_32_le", ["utf_32le"]),
  ("utf_7", ["u7", "unicode_1_1_utf_7", "utf7"]),
  ("utf_8", ["cp65001", "u8", "utf", "utf8", "utf8_ucs2", "utf8_ucs4"]),
  ("uu_codec", ["uu"]),
  ("zlib_codec", ["zip", "zlib"])]

/-- The names that documents use for charsets, in upper case. -/
def documentNames : List (String × List String) := [
  ("ascii", ["ASCII", "US-ASCII", "US", "ISO646-US", "ISO_646.IRV:1991", "ISO-IR-6", "ANSI_X3.4-1968",
    "ANSI_X3.4-1986", "CP367", "IBM367", "CSASCII"]),
  ("latin_1", ["ISO-8859-1", "ISO8859-1", "ISO_8859-1", "ISO_8859-1:1987", "ISO-LATIN-1", "ISO LATIN 1", "LATIN1", "L1",
    "CP819", "IBM819", "ISO-IR-100", "CSISOLATIN1"]),
  ("iso8859_2", ["ISO-8859-2", "ISO8859-2", "ISO_8859-2", "ISO_8859-2:1987", "ISO-LATIN-2", "ISO LATIN 2", "LATIN2", "L2",
    "ISO-IR-101", "CSISOLATIN2"]),
  ("iso8859_3", ["ISO-8859-3", "ISO8859-3", "ISO_8859-3", "ISO_8859-3:1988", "LATIN3", "L3", "ISO-IR-109",
    "CSISOLATIN3"]),
  ("iso8859_4", ["ISO-8859-4", "ISO8859-4", "ISO_8859-4", "ISO_8859-4:1988", "LATIN4", "L4", "ISO-IR-110",
    "CSISOLATIN4"]),
  ("iso8859_5", ["ISO-8859-5", "ISO8859-5", "ISO_8859-5", "ISO_8859-5:1988", "CYRILLIC", "ISO-IR-144",
    "CSISOLATINCYRILLIC"]),
  ("iso8859_6", ["ISO-8859-6", "ISO8859-6", "ISO_8859-6", "ISO_8859-6:1987", "ARABIC", "ASMO-708",
    "ECMA-114", "ISO-IR-127", "CSISOLATINARABIC"]),
  ("iso8859_7", ["ISO-8859-7", "ISO8859-7", "ISO_8859-7", "ISO_8859-7:1987", "ISO_8859-7:2003", "GREEK",
    "GREEK8", "ECMA-118", "ELOT_928", "ISO-IR-126", "CSISOLATINGREEK"]),
  ("iso8859_8", ["ISO-8859-8", "ISO8859-8", "ISO_8859-8", "ISO_8859-8:1988", "HEBREW", "ISO-IR-138",
    "CSISOLATINHEBREW"]),
  ("iso8859_9", ["ISO-8859-9", "ISO8859-9", "ISO_8859-9", "ISO_8859-9:1989", "LATIN5", "L5", "ISO-IR-148",
    "CSISOLATIN5"]),
  ("iso8859_10", ["ISO-8859-10", "ISO8859-10", "ISO_8859-10", "ISO_8859-10:1992", "LATIN6", "L6",
    "ISO-IR-157", "CSISOLATIN6"]),
  ("iso8859_11", ["ISO-8859-11", "ISO8859-11", "ISO_8859-11"]),
  ("iso8859_13", ["ISO-8859-13", "ISO8859-13", "ISO_8859-13", "LATIN7", "L7", "ISO-IR-179"]),
  ("iso8859_14", ["ISO-8859-14", "ISO8859-14", "ISO_8859-14", "ISO_8859-14:1998", "LATIN8", "L8",
    "ISO-CELTIC", "ISO-IR-199"]),
  ("iso8859_15", ["ISO-8859-15", "ISO8859-15", "ISO_8859-15", "ISO_8859-15:1998", "LATIN-9", "ISO-IR-203"]),
  ("iso8859_16", ["ISO-8859-16", "ISO8859-16", "ISO_8859-16", "ISO_8859-16:2001", "LATIN10", "L10",
    "ISO-IR-226"]),
  ("koi8_r", ["KOI8-R", "CSKOI8R"]),
  ("koi8_u", ["KOI8-U"]),
  ("koi8_t", ["KOI8-T"]),
  ("cp1250", ["CP1250", "WINDOWS-1250", "MS-EE"]),
  ("cp1251", ["CP1251", "WINDOWS-1251", "MS-CYRL"]),
  ("cp1252", ["CP1252", "WINDOWS-1252", "MS-ANSI"]),
  ("cp1253", ["CP1253", "WINDOWS-1253", "MS-GREEK"]),
  ("cp1254", ["CP1254", "WINDOWS-1254", "MS-TURK"]),
  ("cp1255", ["CP1255", "WINDOWS-1255", "MS-HEBR"]),
  ("cp1256", ["CP1256", "WINDOWS-1256", "MS-ARAB"]),
  ("cp1257", ["CP1257", "WINDOWS-1257", "WINBALTRIM"]),
  ("cp1258", ["CP1258", "WINDOWS-1258"]),
  ("cp850", ["CP850", "IBM850", "850", "CSPC850MULTILINGUAL"]),
  ("cp862", ["CP862", "IBM862", "862", "CSPC862LATINHEBREW"]),
  ("cp866", ["CP866", "IBM866", "866", "CSIBM866"]),
  ("cp874", ["CP874", "WINDOWS-874"]),
  ("tis_620", ["TIS-620", "TIS620", "TIS620-0", "TIS620.2529-1", "TIS620.2533-0", "TIS620.2533-1",
    "ISO-IR-166"]),
  ("hp_roman8", ["HP-ROMAN8", "ROMAN8", "R8", "CSHPROMAN8"]),
  ("kz1048", ["RK1048", "STRK1048-2002", "KZ-1048", "CSKZ1048"]),
  ("ptcp154", ["PT154", "PTCP154", "CP154", "CYRILLIC-ASIAN", "CSPTCP154"]),
  ("mac_roman", ["MACROMAN", "MACINTOSH", "MAC", "CSMACINTOSH"]),
  ("mac_latin2", ["MACCENTRALEUROPE"]),
  ("mac_iceland", ["MACICELAND"]),
  ("mac_croatian", ["MACCROATIAN"]),
  ("mac_romanian", ["MACROMANIA"]),
  ("mac_cyrillic", ["MACCYRILLIC"]),
  ("mac_greek", ["MACGREEK"]),
  ("mac_turkish", ["MACTURKISH"]),
  ("utf_8", ["UTF-8", "UTF8"]),
  ("utf_7", ["UTF-7", "UNICODE-1-1-UTF-7", "CSUNICODE11UTF7"]),
  ("utf_16", ["UTF-16", "UTF16"]),
  ("utf_16_le", ["UTF-16LE"]),
  ("utf_16_be", ["UTF-16BE"]),
  ("utf_32", ["UTF-32", "UCS-4", "UCS4", "ISO-10646-UCS-4", "CSUCS4"]),
  ("utf_32_le", ["UTF-32LE", "UCS-4LE"]),
  ("utf_32_be", ["UTF-32BE", "UCS-4BE"]),
  ("shift_jis_roman", ["SHIFT_JIS", "SHIFT-JIS", "SJIS", "MS_KANJI", "CSSHIFTJIS"]),
  ("cp932", ["CP932"]),
  ("euc_jp", ["EUC-JP", "EUCJP", "EXTENDED_UNIX_CODE_PACKED_FORMAT_FOR_JAPANESE", "CSEUCPKDFMTJAPANESE"]),
  ("iso2022_jp", ["ISO-2022-JP", "CSISO2022JP"]),
  ("gb2312", ["GB2312", "EUC-CN", "EUCCN", "CN-GB", "CSGB2312"]),
  ("gbk", ["GBK", "CP936", "MS936", "WINDOWS-936"]),
  ("gb18030", ["GB18030"]),
  ("big5", ["BIG5", "BIG-5", "BIG-FIVE", "BIGFIVE", "CN-BIG5", "CSBIG5"]),
  ("cp950", ["CP950"]),
  ("euc_kr", ["EUC-KR", "EUCKR", "CSEUCKR"]),
  ("cp949", ["CP949", "UHC"])]

/-- The name of the charset that has another name in a list. -/
def nameIn? (names : List (String × List String)) (name : String) : Option String :=
  (names.find? fun (_, others) => others.contains name).map (·.1)

end AttrTemplates.Text
