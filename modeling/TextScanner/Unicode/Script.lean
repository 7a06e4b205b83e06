import TextScanner.Unicode.Runs
import TextScanner.Unicode.Script.Table

/-!
# Scripts

The script a character is used in.  A script is known by a long name and
mostly by a four-letter abbreviation.
-/

namespace TextScanner.Unicode

/-- The scripts, each by its long name and its abbreviation. -/
def scriptNames : List String := [
  "Adlam Adlm; Ahom; Anatolian_Hieroglyphs Hluw; Arabic Arab; Armenian Armn; Avestan Avst",
  "Balinese Bali; Bamum Bamu; Bassa_Vah Bass; Batak Batk; Bengali Beng; Bhaiksuki Bhks",
  "Bopomofo Bopo; Brahmi Brah; Braille Brai; Buginese Bugi; Buhid Buhd",
  "Canadian_Aboriginal Cans; Carian Cari; Caucasian_Albanian Aghb; Chakma Cakm; Cham",
  "Cherokee Cher; Chorasmian Chrs; Common Zyyy; Coptic Copt Qaac; Cuneiform Xsux",
  "Cypriot Cprt; Cypro_Minoan Cpmn; Cyrillic Cyrl; Deseret Dsrt; Devanagari Deva",
  "Dives_Akuru Diak; Dogra Dogr; Duployan Dupl; Egyptian_Hieroglyphs Egyp; Elbasan Elba",
  "Elymaic Elym; Ethiopic Ethi; Garay Gara; Georgian Geor; Glagolitic Glag; Gothic Goth",
  "Grantha Gran; Greek Grek; Gujarati Gujr; Gunjala_Gondi Gong; Gurmukhi Guru",
  "Gurung_Khema Gukh; Han Hani; Hangul Hang; Hanifi_Rohingya Rohg; Hanunoo Hano",
  "Hatran Hatr; Hebrew Hebr; Hiragana Hira; Imperial_Aramaic Armi; Inherited Zinh Qaai",
  "Inscriptional_Pahlavi Phli; Inscriptional_Parthian Prti; Javanese Java; Kaithi Kthi",
  "Kannada Knda; Katakana Kana; Kawi; Kayah_Li Kali; Kharoshthi Khar",
  "Khitan_Small_Script Kits; Khmer Khmr; Khojki Khoj; Khudawadi Sind; Kirat_Rai Krai",
  "Lao Laoo; Latin Latn; Lepcha Lepc; Limbu Limb; Linear_A Lina; Linear_B Linb; Lisu",
  "Lycian Lyci; Lydian Lydi; Mahajani Mahj; Makasar Maka; Malayalam Mlym; Mandaic Mand",
  "Manichaean Mani; Marchen Marc; Masaram_Gondi Gonm; Medefaidrin Medf; Meetei_Mayek Mtei",
  "Mende_Kikakui Mend; Meroitic_Cursive Merc; Meroitic_Hieroglyphs Mero; Miao Plrd; Modi",
  "Mongolian Mong; Mro Mroo; Multani Mult; Myanmar Mymr; Nabataean Nbat; Nag_Mundari Nagm",
  "Nandinagari Nand; New_Tai_Lue Talu; Newa; Nko Nkoo; Nushu Nshu",
  "Nyiakeng_Puachue_Hmong Hmnp; Ogham Ogam; Ol_Chiki Olck; Ol_Onal Onao",
  "Old_Hungarian Hung; Old_Italic Ital; Old_North_Arabian Narb; Old_Permic Perm",
  "Old_Persian Xpeo; Old_Sogdian Sogo; Old_South_Arabian Sarb; Old_Turkic Orkh",
  "Old_Uyghur Ougr; Oriya Orya; Osage Osge; Osmanya Osma; Pahawh_Hmong Hmng",
  "Palmyrene Palm; Pau_Cin_Hau Pauc; Phags_Pa Phag; Phoenician Phnx; Psalter_Pahlavi Phlp",
  "Rejang Rjng; Runic Runr; Samaritan Samr; Saurashtra Saur; Sharada Shrd; Shavian Shaw",
  "Siddham Sidd; SignWriting Sgnw; Sinhala Sinh; Sogdian Sogd; Sora_Sompeng Sora",
  "Soyombo Soyo; Sundanese Sund; Sunuwar Sunu; Syloti_Nagri Sylo; Syriac Syrc",
  "Tagalog Tglg; Tagbanwa Tagb; Tai_Le Tale; Tai_Tham Lana; Tai_Viet Tavt; Takri Takr",
  "Tamil Taml; Tangsa Tnsa; Tangut Tang; Telugu Telu; Thaana Thaa; Thai; Tibetan Tibt",
  "Tifinagh Tfng; Tirhuta Tirh; Todhri Todr; Toto; Ugaritic Ugar; Unknown Zzzz; Vai Vaii",
  "Vithkuqi Vith; Wancho Wcho; Warang_Citi Wara; Yezidi Yezi; Yi Yiii",
  "Zanabazar_Square Zanb"]

/-- A name in small letters, without hyphens and low lines. -/
def plainName (name : String) : String :=
  String.ofList ((name.toList.filter fun char => char != '_' && char != '-').map Char.toLower)

/-- The runs of the script property, by long names. -/
def scripts : Runs String := Runs.ofLines some scriptLines

/-- The long name of the script of a character. -/
def scriptOf (char : Char) : String :=
  (scripts.at? char.toNat).getD "Unknown"

/-- The long name of the script with a name in small letters, without blanks,
hyphens and low lines. -/
def findScript? (name : String) : Option String :=
  (scriptNames.flatMap fun line => line.splitOn "; ").findSome? fun entry =>
    let known := entry.splitOn " "
    if known.any fun candidate => plainName candidate == name then known.head? else none

end TextScanner.Unicode
