import ApiRouter.Text.Charset.Table.CodePage
import ApiRouter.Text.Charset.Table.Iso
import ApiRouter.Text.Charset.Table.Regional
import ApiRouter.Text.Charset.Basic

set_option autoImplicit false

/-! # Names of charsets

What each charset is called, and what else. -/

namespace ApiRouter.Text.Charset

/-- A charset under its first name and its other names. -/
structure Named where
  name : String
  others : List String
  charset : Charset

/-- The charsets that can be told by a name. -/
def all : List Named := [
  ⟨"ascii", ["646", "ansi_x3.4_1968", "ansi_x3.4_1986", "ansi_x3_4_1968", "cp367", "csascii",
    "ibm367", "iso646_us", "iso_646.irv_1991", "iso_ir_6", "us", "us_ascii"], .ascii⟩,
  ⟨"base64_codec", ["base64", "base_64"], .packing⟩,
  ⟨"big5", ["big5_tw", "csbig5", "x_mac_trad_chinese"], .eastAsian .big5⟩,
  ⟨"big5hkscs", ["big5_hkscs", "hkscs"], .eastAsian .big5HongKong⟩,
  ⟨"bz2_codec", ["bz2"], .packing⟩,
  ⟨"charmap", [], .latin⟩,
  ⟨"cp037", ["037", "csibm037", "ebcdic_cp_ca", "ebcdic_cp_nl", "ebcdic_cp_us", "ebcdic_cp_wt",
    "ibm037", "ibm039"], .singleByte .cp037⟩,
  ⟨"cp1006", [], .singleByte .cp1006⟩,
  ⟨"cp1026", ["1026", "csibm1026", "ibm1026"], .singleByte .cp1026⟩,
  ⟨"cp1125", ["1125", "cp866u", "ibm1125", "ruscii"], .singleByte .cp1125⟩,
  ⟨"cp1140", ["1140", "ibm1140"], .singleByte .cp1140⟩,
  ⟨"cp1250", ["1250", "windows_1250"], .singleByte .cp1250⟩,
  ⟨"cp1251", ["1251", "windows_1251"], .singleByte .cp1251⟩,
  ⟨"cp1252", ["1252", "windows_1252"], .singleByte .cp1252⟩,
  ⟨"cp1253", ["1253", "windows_1253"], .singleByte .cp1253⟩,
  ⟨"cp1254", ["1254", "windows_1254"], .singleByte .cp1254⟩,
  ⟨"cp1255", ["1255", "windows_1255"], .singleByte .cp1255⟩,
  ⟨"cp1256", ["1256", "windows_1256"], .singleByte .cp1256⟩,
  ⟨"cp1257", ["1257", "windows_1257"], .singleByte .cp1257⟩,
  ⟨"cp1258", ["1258", "windows_1258"], .singleByte .cp1258⟩,
  ⟨"cp273", ["273", "csibm273", "ibm273"], .singleByte .cp273⟩,
  ⟨"cp424", ["424", "csibm424", "ebcdic_cp_he", "ibm424"], .singleByte .cp424⟩,
  ⟨"cp437", ["437", "cspc8codepage437", "ibm437"], .singleByte .cp437⟩,
  ⟨"cp500", ["500", "csibm500", "ebcdic_cp_be", "ebcdic_cp_ch", "ibm500"], .singleByte .cp500⟩,
  ⟨"cp720", [], .singleByte .cp720⟩,
  ⟨"cp737", [], .singleByte .cp737⟩,
  ⟨"cp775", ["775", "cspc775baltic", "ibm775"], .singleByte .cp775⟩,
  ⟨"cp850", ["850", "cspc850multilingual", "ibm850"], .singleByte .cp850⟩,
  ⟨"cp852", ["852", "cspcp852", "ibm852"], .singleByte .cp852⟩,
  ⟨"cp855", ["855", "csibm855", "ibm855"], .singleByte .cp855⟩,
  ⟨"cp856", [], .singleByte .cp856⟩,
  ⟨"cp857", ["857", "csibm857", "ibm857"], .singleByte .cp857⟩,
  ⟨"cp858", ["858", "csibm858", "ibm858"], .singleByte .cp858⟩,
  ⟨"cp860", ["860", "csibm860", "ibm860"], .singleByte .cp860⟩,
  ⟨"cp861", ["861", "cp_is", "csibm861", "ibm861"], .singleByte .cp861⟩,
  ⟨"cp862", ["862", "cspc862latinhebrew", "ibm862"], .singleByte .cp862⟩,
  ⟨"cp863", ["863", "csibm863", "ibm863"], .singleByte .cp863⟩,
  ⟨"cp864", ["864", "csibm864", "ibm864"], .singleByte .cp864⟩,
  ⟨"cp865", ["865", "csibm865", "ibm865"], .singleByte .cp865⟩,
  ⟨"cp866", ["866", "csibm866", "ibm866"], .singleByte .cp866⟩,
  ⟨"cp869", ["869", "cp_gr", "csibm869", "ibm869"], .singleByte .cp869⟩,
  ⟨"cp874", [], .singleByte .cp874⟩,
  ⟨"cp875", [], .singleByte .cp875⟩,
  ⟨"cp932", ["932", "ms932", "ms_kanji", "mskanji"], .eastAsian .shiftJisVendor⟩,
  ⟨"cp949", ["949", "ms949", "uhc"], .eastAsian .eucKrVendor⟩,
  ⟨"cp950", ["950", "ms950"], .eastAsian .big5Vendor⟩,
  ⟨"euc_jis_2004", ["euc_jis2004", "eucjis2004", "jisx0213"], .eastAsian (.eucJpNew true)⟩,
  ⟨"euc_jisx0213", ["eucjisx0213"], .eastAsian (.eucJpNew false)⟩,
  ⟨"euc_jp", ["eucjp", "u_jis", "ujis"], .eastAsian .eucJp⟩,
  ⟨"euc_kr", ["euckr", "korean", "ks_c_5601", "ks_c_5601_1987", "ks_x_1001", "ksc5601",
    "ksx1001", "x_mac_korean"], .eastAsian .eucKr⟩,
  ⟨"gb18030", ["gb18030_2000"], .eastAsian .gb18030⟩,
  ⟨"gb2312", ["chinese", "csiso58gb231280", "euc_cn", "euccn", "eucgb2312_cn", "gb2312_1980",
    "gb2312_80", "iso_ir_58", "x_mac_simp_chinese"], .eastAsian .gb2312⟩,
  ⟨"gbk", ["936", "cp936", "ms936"], .eastAsian .gbk⟩,
  ⟨"hex_codec", ["hex"], .packing⟩,
  ⟨"hp_roman8", ["cp1051", "csHPRoman8", "ibm1051", "r8", "roman8"], .singleByte .hpRoman8⟩,
  ⟨"hz", ["hz_gb", "hz_gb_2312", "hzgb"], .tilde⟩,
  ⟨"idna", [], .undefined⟩,
  ⟨"iso2022_jp", ["csiso2022jp", "iso2022jp", "iso_2022_jp"],
    .escaped (.japanese [.roman, .oldKanji])⟩,
  ⟨"iso2022_jp_1", ["iso2022jp_1", "iso_2022_jp_1"],
    .escaped (.japanese [.kanjiMore, .roman, .oldKanji])⟩,
  ⟨"iso2022_jp_2", ["iso2022jp_2", "iso_2022_jp_2"], .escaped .multilingual⟩,
  ⟨"iso2022_jp_2004", ["iso2022jp_2004", "iso_2022_jp_2004"],
    .escaped (.japanese [.kanjiFirst true, .kanjiSecond true])⟩,
  ⟨"iso2022_jp_3", ["iso2022jp_3", "iso_2022_jp_3"],
    .escaped (.japanese [.kanjiFirst false, .kanjiSecond false])⟩,
  ⟨"iso2022_jp_ext", ["iso2022jp_ext", "iso_2022_jp_ext"],
    .escaped (.japanese [.kanjiMore, .roman, .kana, .oldKanji])⟩,
  ⟨"iso2022_kr", ["csiso2022kr", "iso2022kr", "iso_2022_kr"], .escaped .korean⟩,
  ⟨"iso8859_1", [], .latin⟩,
  ⟨"iso8859_10", ["csisolatin6", "iso_8859_10", "iso_8859_10_1992", "iso_ir_157", "l6", "latin6"],
    .singleByte .iso8859Part10⟩,
  ⟨"iso8859_11", ["iso_8859_11", "iso_8859_11_2001", "thai"], .singleByte .iso8859Part11⟩,
  ⟨"iso8859_13", ["iso_8859_13", "l7", "latin7"], .singleByte .iso8859Part13⟩,
  ⟨"iso8859_14", ["iso_8859_14", "iso_8859_14_1998", "iso_celtic", "iso_ir_199", "l8", "latin8"],
    .singleByte .iso8859Part14⟩,
  ⟨"iso8859_15", ["iso_8859_15", "l9", "latin9"], .singleByte .iso8859Part15⟩,
  ⟨"iso8859_16", ["iso_8859_16", "iso_8859_16_2001", "iso_ir_226", "l10", "latin10"],
    .singleByte .iso8859Part16⟩,
  ⟨"iso8859_2", ["csisolatin2", "iso_8859_2", "iso_8859_2_1987", "iso_ir_101", "l2", "latin2"],
    .singleByte .iso8859Part2⟩,
  ⟨"iso8859_3", ["csisolatin3", "iso_8859_3", "iso_8859_3_1988", "iso_ir_109", "l3", "latin3"],
    .singleByte .iso8859Part3⟩,
  ⟨"iso8859_4", ["csisolatin4", "iso_8859_4", "iso_8859_4_1988", "iso_ir_110", "l4", "latin4"],
    .singleByte .iso8859Part4⟩,
  ⟨"iso8859_5", ["csisolatincyrillic", "cyrillic", "iso_8859_5", "iso_8859_5_1988", "iso_ir_144"],
    .singleByte .iso8859Part5⟩,
  ⟨"iso8859_6", ["arabic", "asmo_708", "csisolatinarabic", "ecma_114", "iso_8859_6",
    "iso_8859_6_1987", "iso_ir_127"], .singleByte .iso8859Part6⟩,
  ⟨"iso8859_7", ["csisolatingreek", "ecma_118", "elot_928", "greek", "greek8", "iso_8859_7",
    "iso_8859_7_1987", "iso_ir_126"], .singleByte .iso8859Part7⟩,
  ⟨"iso8859_8", ["csisolatinhebrew", "hebrew", "iso_8859_8", "iso_8859_8_1988", "iso_ir_138"],
    .singleByte .iso8859Part8⟩,
  ⟨"iso8859_9", ["csisolatin5", "iso_8859_9", "iso_8859_9_1989", "iso_ir_148", "l5", "latin5"],
    .singleByte .iso8859Part9⟩,
  ⟨"johab", ["cp1361", "ms1361"], .eastAsian .johab⟩,
  ⟨"koi8_r", ["cskoi8r"], .singleByte .koi8R⟩,
  ⟨"koi8_t", [], .singleByte .koi8T⟩,
  ⟨"koi8_u", [], .singleByte .koi8U⟩,
  ⟨"kz1048", ["kz_1048", "rk1048", "strk1048_2002"], .singleByte .kz1048⟩,
  ⟨"latin_1", ["8859", "cp819", "csisolatin1", "ibm819", "iso8859", "iso8859_1", "iso_8859_1",
    "iso_8859_1_1987", "iso_ir_100", "l1", "latin", "latin1"], .latin⟩,
  ⟨"mac_arabic", [], .singleByte .macArabic⟩,
  ⟨"mac_croatian", [], .singleByte .macCroatian⟩,
  ⟨"mac_cyrillic", ["maccyrillic"], .singleByte .macCyrillic⟩,
  ⟨"mac_farsi", [], .singleByte .macFarsi⟩,
  ⟨"mac_greek", ["macgreek"], .singleByte .macGreek⟩,
  ⟨"mac_iceland", ["maciceland"], .singleByte .macIceland⟩,
  ⟨"mac_latin2", ["mac_centeuro", "maccentraleurope", "maclatin2"], .singleByte .macLatin2⟩,
  ⟨"mac_roman", ["macintosh", "macroman"], .singleByte .macRoman⟩,
  ⟨"mac_romanian", [], .singleByte .macRomanian⟩,
  ⟨"mac_turkish", ["macturkish"], .singleByte .macTurkish⟩,
  ⟨"palmos", [], .singleByte .palmos⟩,
  ⟨"ptcp154", ["cp154", "csptcp154", "cyrillic_asian", "pt154"], .singleByte .ptcp154⟩,
  ⟨"punycode", [], .punycode⟩,
  ⟨"quopri_codec", ["quopri", "quoted_printable", "quotedprintable"], .packing⟩,
  ⟨"raw_unicode_escape", [], .backslash false⟩,
  ⟨"rot_13", ["rot13"], .cipher⟩,
  ⟨"shift_jis", ["csshiftjis", "s_jis", "shiftjis", "sjis", "x_mac_japanese"],
    .eastAsian .shiftJis⟩,
  ⟨"shift_jis_2004", ["s_jis_2004", "shiftjis2004", "sjis_2004"], .eastAsian (.shiftJisNew true)⟩,
  ⟨"shift_jisx0213", ["s_jisx0213", "shiftjisx0213", "sjisx0213"],
    .eastAsian (.shiftJisNew false)⟩,
  ⟨"tis_620", ["iso_ir_166", "tis620", "tis_620_0", "tis_620_2529_0", "tis_620_2529_1"],
    .singleByte .tis620⟩,
  ⟨"undefined", [], .undefined⟩,
  ⟨"unicode_escape", [], .backslash true⟩,
  ⟨"utf_16", ["u16", "utf16"], .utf16 none⟩,
  ⟨"utf_16_be", ["unicodebigunmarked", "utf_16be"], .utf16 (some .bigEnd)⟩,
  ⟨"utf_16_le", ["unicodelittleunmarked", "utf_16le"], .utf16 (some .littleEnd)⟩,
  ⟨"utf_32", ["u32", "utf32"], .utf32 none⟩,
  ⟨"utf_32_be", ["utf_32be"], .utf32 (some .bigEnd)⟩,
  ⟨"utf_32_le", ["utf_32le"], .utf32 (some .littleEnd)⟩,
  ⟨"utf_7", ["u7", "unicode_1_1_utf_7", "utf7"], .utf7⟩,
  ⟨"utf_8", ["cp65001", "u8", "utf", "utf8", "utf8_ucs2", "utf8_ucs4"], .utf8⟩,
  ⟨"utf_8_sig", [], .utf8Marked⟩,
  ⟨"uu_codec", ["uu"], .packing⟩,
  ⟨"zlib_codec", ["zip", "zlib"], .packing⟩]

end ApiRouter.Text.Charset
