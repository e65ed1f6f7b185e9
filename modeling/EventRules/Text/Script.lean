import EventRules.Text.CharSet

/-!
# Scripts

The script that a character belongs to, and the scripts that it is used with, by their names in small letters
without underscores.
-/

namespace EventRules.Text

/-- The names of each script and its characters as packed ranges. -/
def scripts : List (List String × String) := [
  (["adlam", "adlm"], "08qDbCEJEB"),
  (["caucasianalbanian", "aghb"], "g91CjBLA"),
  (["ahom"], "0o5CwCOEW"),
  (["arabic", "arab"],
    "0gBEBFBNBCB-BJLZBbDB1BgCfBgH1BFaCBygisBdPCfE0BPgDEB6E3rD+3CFII1BF0onBDBwBBBACABJBDBABAG" ++
    "AEABABABCBBBACABABABABABBBACDBGBDBDBABJBQFCBEBQkBB"),
  (["imperialaramaic", "armi"], "022CVBI"),
  (["armenian", "armn"], "h9B5BChBCC3ctBE"),
  (["avestan", "avst"], "0o2ClBDG"),
  (["balinese", "bali"], "0oGcCBhB"),
  (["bamum", "bamu"], "0l9BnC88gBoR"),
  (["bassavah", "bass"], "gmqCzCF"),
  (["batak", "batk"], "0uGjBID"),
  (["bengali", "beng"], "0cCDBHCBCVBGBADDCICBCDIAEBBECY"),
  (["bhaiksuki", "bhks"], "007CIBcBBNKy"),
  (["bopomofo", "bopo"], "aXBpgLaBgD-"),
  (["brahmi", "brah"], "004CdCE3BJA"),
  (["braille", "brai"], "00KvH"),
  (["buginese", "bugi"], "0gGxCB"),
  (["buhid", "buhd"], "0qFT"),
  (["chakma", "cakm"], "084CkBBR"),
  (["canadianaboriginal", "cans"], "00FvTgR5Cqd0CP"),
  (["carian", "cari"], "0l0CgB"),
  (["cham"], "0gaBmBJNCJCD"),
  (["cherokee", "cher"], "0tElCCFir5BfC"),
  (["chorasmian", "chrs"], "gt3Cx"),
  (["qaac", "coptic", "copt"], "2-Ng4KjDFG"),
  (["cyprominoan", "cpmn"], "gsbC2D"),
  (["cypriot", "cprt"], "002CFCABbBBBDACA"),
  (["cyrillic", "cyrl"], "00B4EC8FgqFK0FAcCA73E-02+vCesVB0goBtB1BA"),
  (["devanagari", "deva"], "08CgCEOCZ0r7B-0gyJ"),
  (["divesakuru", "diak"], "086CGCACHBBBzBBCLJJ"),
  (["dogra", "dogr"], "006CrB"),
  (["deseret", "dsrt"], "001CfC"),
  (["duployan", "dupl"], "00fDaDFMDIHJCD"),
  (["egyptianhieroglyphs", "egyp"], "00cCl2BKqsD"),
  (["elbasan", "elba"], "081C7B"),
  (["elymaic", "elym"], "0v3CW"),
  (["ethiopic", "ethi"],
    "0gE8CBDCGBABDC8BBDC0BBDCGBABDCOBoBBDC2CC-DZ6fGWJGBGBGBGBGBGBGBG29-FCFCFJGBGh5fCGBDBBBO"),
  (["georgian", "geor"], "05E5BBAFACaBBDgsCaBCC02E5BBAFA"),
  (["glagolitic", "glag"], "00LvC0tcDGBQCGBBBE"),
  (["gunjalagondi", "gong"], "0b7CFBBB4BBBBFHJ"),
  (["masaramgondi", "gonm"], "087CGBBBbBDABBBIIJ"),
  (["gothic", "goth"], "gp0Cw"),
  (["grantha", "gran"], "0o4CDBHCBCVBGBBBECICBCCCAGAFGCGDE"),
  (["greek", "grek"],
    "gxDBCCDBAEABABCBABTBuBOP69GEiBEEEkCA0KVCFC5BCFCHBABABAB+CkBBOBNCFBSCCBI7JAuh2BAqeVeCRAv" ++
    "2kB5C"),
  (["gujarati", "gujr"], "1kCCBIBCBVBGBBBECJBCBCCAPDCLHG"),
  (["gurmukhi", "guru"], "1gCCBFEBCVBGBBBBBBCABEEBCCDAHDBAHQ"),
  (["hangul", "hang"], "08EvHehHB1ItChD+1C+1nzy3U3tKMWEgB4tJ+DFCFCFCC"),
  (["han", "hani"],
    "0kLZBoCMlGfBABAZIOD4+vdG0CvfU08WdLC9D88zBMG904Bvm9B0Bt8ECdkFCg9HPdT2dCtQ2fBaqEF99I"),
  (["hanunoo", "hano"], "0pFU"),
  (["hatran", "hatr"], "072CSBBFE"),
  (["hebrew", "hebr"], "hcBmBIwEF89tBZBEBABBBBBJ"),
  (["hiragana", "hira"], "12MlCGC1rvCuISAzCd5QA"),
  (["anatolianhieroglyphs", "hluw"], "00hC6S"),
  (["pahawhhmong", "hmng"], "0oqC5CKJBGBUFS"),
  (["nyiakengpuachuehmong", "hmnp"], "08oDcBDNCJEB"),
  (["oldhungarian", "hung"], "043CiBNiBHF"),
  (["olditalic", "ital"], "0o0C3BJC"),
  (["javanese", "java"], "0caBdCCJEB"),
  (["kayahli", "kali"], "08aBdBBA"),
  (["katakana", "kana"], "15MpCCCgHPgGeBBnCe0jBJBcBi2cBDBGBBBAvICiBAOD"),
  (["kawi"], "0o7CQB8BDy"),
  (["kharoshthi", "khar"], "0g2CDBBFHBCByCCEJHI"),
  (["khmer", "khmr"], "0sFtCCJGJ6P-"),
  (["khojki", "khoj"], "0g4CRBeB"),
  (["khitansmallscript", "kits"], "4vrCAroGlO9BA"),
  (["kannada", "knda"], "04DMBCBWBJBECIBCBDHBFCBDCJBC"),
  (["kaithi", "kthi"], "044C2CKA"),
  (["taitham", "lana"], "0hGuBByCKGJGN"),
  (["lao", "laoo"], "1kDBBABEBXBABWCEBABGBJCD"),
  (["latin", "latn"],
    "1CZGZfBAPAFWB+B0O7BErgG5BGgBFDFMB5C1CvHhLANAQMdEBGAxAR8BnmC-2l+5DDhCUOgZaBBIBDmsTGq0BZG" ++
    "Z51CFB9BBI5qlB+GF"),
  (["lepcha", "lepc"], "00HnBDODC"),
  (["limbu", "limb"], "08G+BLELEADL"),
  (["lineara", "lina"], "0g1CmJJVKH"),
  (["linearb", "linb"], "000CLBZBSBBBOCN2BqD"),
  (["lisu"], "g69BfBgl+A"),
  (["lycian", "lyci"], "0k0Cy"),
  (["lydian", "lydi"], "092CZFA"),
  (["mahajani", "mahj"], "ga4C6B"),
  (["makasar", "maka"], "0n7CY"),
  (["mandaic", "mand"], "02CxCA"),
  (["manichaean", "mani"], "0m2C6BEL"),
  (["marchen", "marc"], "g37C-CVBN"),
  (["medefaidrin", "medf"], "0irCqC"),
  (["mendekikakui", "mend"], "00qD4GCP"),
  (["meroiticcursive", "merc"], "0d2CXETCdB"),
  (["meroitichieroglyphs", "mero"], "0c2C-"),
  (["malayalam", "mlym"], "08DMBCBiBBCBFEPCZ"),
  (["modi"], "0g5C4CLJ"),
  (["mongolian", "mong"], "00GBCABTGoCHaBldvBM"),
  (["mro", "mroo"], "0iqC+BJEB"),
  (["meeteimayek", "mtei"], "0naBW9GdBCJ"),
  (["multani", "mult"], "0k4CGBABDBOBK"),
  (["myanmar", "mymr"], "00EvE0a6B+1D-g2xT"),
  (["nagmundari", "nagm"], "g6pD9B"),
  (["nandinagari", "nand"], "0d6CHCdBCK"),
  (["oldnortharabian", "narb"], "0k2C-"),
  (["nabataean", "nbat"], "042C+II"),
  (["newa"], "005CrCBE"),
  (["nko", "nkoo"], "0uBqBCC"),
  (["nushu", "nshu"], "1vrCAecQbM"),
  (["ogham", "ogam"], "0kFy"),
  (["olchiki", "olck"], "g2HfB"),
  (["oldturkic", "orkh"], "003C8C"),
  (["oriya", "orya"], "1oCCBHCBCVBGBBBECICBCCHCEBBECR"),
  (["osage", "osge"], "g51C3BE3B"),
  (["osmanya", "osma"], "041CzCJ"),
  (["olduyghur", "ougr"], "gr3CZ"),
  (["palmyrene", "palm"], "032C-"),
  (["paucinhau", "pauc"], "0m6CoB"),
  (["oldpermic", "perm"], "gq0CaB"),
  (["phagspa", "phag"], "02aBnB"),
  (["inscriptionalpahlavi", "phli"], "0r2CSFH"),
  (["psalterpahlavi", "phlp"], "0s2CRHDMG"),
  (["phoenician", "phnx"], "082CxDA"),
  (["miao", "plrd"], "0orCaCEoBHQ"),
  (["inscriptionalparthian", "prti"], "0q2CVCH"),
  (["rejang", "rjng"], "g9aB3BLA"),
  (["hanifirohingya", "rohg"], "083C7BIJ"),
  (["runic", "runr"], "0lFaCDK"),
  (["samaritan", "samr"], "00CdBCO"),
  (["oldsoutharabian", "sarb"], "0j2C-"),
  (["saurashtra", "saur"], "04aB5CIL"),
  (["signwriting", "sgnw"], "00mDbUPEBO"),
  (["shavian", "shaw"], "g21CfB"),
  (["sharada", "shrd"], "0c4CvC0cCH"),
  (["siddham", "sidd"], "0c5ClBC5B"),
  (["khudawadi", "sind"], "gl4CqBFJ"),
  (["sinhala", "sinh"], "1cDCBRDXBIBACGDAEFBABHGJCCcv0CT"),
  (["sogdian", "sogd"], "gp3C9B"),
  (["oldsogdian", "sogo"], "0o3C7B"),
  (["sorasompeng", "sora"], "g64CYHJ"),
  (["soyombo", "soyo"], "gi6CiC"),
  (["sundanese", "sund"], "0sGvB0IH"),
  (["sylotinagri", "sylo"], "00aBcB"),
  (["syriac", "syrc"], "0oBNBrBCCgIK"),
  (["tagbanwa", "tagb"], "0rFMBCBB"),
  (["takri", "takr"], "0k5CpBGJ"),
  (["taile", "tale"], "gaGzCE"),
  (["newtailue", "talu"], "0cGbBEZGKDB"),
  (["tamil", "taml"], "2sCBBFDCBDDBBABBDBDCDLEEDCBDCAGAOU5u4ChBNA"),
  (["tangut", "tang"], "0vrCA-vnG0Q+1DiD"),
  (["taiviet", "tavt"], "0kaB2CYE"),
  (["telugu", "telu"], "00DMBCBWBPCIBCBDHBBCBBCDCJHI"),
  (["tifinagh", "tfng"], "g9LnBHBOA"),
  (["tagalog", "tglg"], "0oFVJA"),
  (["thaana", "thaa"], "0sBhB"),
  (["thai"], "1gDpBFx"),
  (["tibetan", "tibt"], "0oD7CB3BE6BB3BBOBGEB"),
  (["tirhuta", "tirh"], "045C7CIJ"),
  (["tangsa", "tnsa"], "gjqCeCBJ"),
  (["toto"], "gkoD+"),
  (["ugaritic", "ugar"], "0s0CzBA"),
  (["vai", "vaii"], "089BbJ"),
  (["vithkuqi", "vith"], "gb1CKBOBGBBBKBOBGBB"),
  (["warangciti", "wara"], "056CiCMA"),
  (["wancho", "wcho"], "0moDpBFA"),
  (["oldpersian", "xpeo"], "0t0C3BEN"),
  (["cuneiform", "xsux"], "008Cpy6DeDBEL3G"),
  (["yezidi", "yezi"], "0k3C9BBCCB"),
  (["yi", "yiii"], "008Bc4BDmB"),
  (["zanabazarsquare", "zanb"], "0g6C7C"),
  (["qaai", "inherited", "zinh"],
    "0YfDlIB4OKwA0XDraEdBCL4PCBMBGEAGADB6GvBcQB2G0BppDDbDB5bjBPQNf+A2HAq2EA4ueBdBCW0RCRHCG+D" ++
    "iqbYfH"),
  (["common", "zyyy"],
    "A0CwFweBBOBEXA-A1O6BFECTkDAJAGABAtTAGAOADA0BAsEA4QA1EBp6BAlMD2JAffBC7CBbGBBAd6BANAHDBFB" ++
    "CCA5YLCmCBKDKBOR1BuB5BBCCFBwBQ9BCEpUWKVvy0IjTC9E0QtCiMUBABYPHEDrCBDAqCBjEP0B5BJAgBvB-gC" ++
    "fBAoC7F0eGvB08W1B6DC5FJkHA0FAbMAOBieUBgGJW2BBSBDjEAB-wFwKKAdBB0CGBGKE2ICEcBDIgCMjBcB4Hw" ++
    "4deBDsqDsHDjNGWPQvCjDsBlHK6BCtBDQIBHzEsBlGTMTMmCJY7EkCB6CBBCACBCDBLBABGB0CBDCHBGBxBDBEB" ++
    "ADGBjKC3JChBh3F3CcCsB2WbBE3DMOCOBOB4BKdFoBZBBNbBEIHBOFqEo+DQDMDpGGLEAPLEnBIJG7BIzCLEBOI" ++
    "7BnKINCMDKDoBBAEPCLEJHiEB6D601YA+vC")]

/-- The scripts that are used with characters of others, and all characters used with them. -/
def scriptExtensions : List (String × String) := [
  ("adlam", "vgBA0BAegGAhfDAuleDbCEJEB"),
  ("caucasianalbanian", "4YAcBAcBAhe0CjBLA"),
  ("arabic",
    "0gBEBmGB1BgCfBgH1BFaCByfqFAhfDAe8jBvT0BPgDEB6E3-x4rC+3CFII1BF0onBDBwBBBACABJBDBABAGAEAB" ++
    "ABABCBBBACABABABABABBBACDBGBDBDBABJBQFCBEBQkBB"),
  ("armenian", "8YA8R5BChBCC3ctBE"),
  ("avestan", "nFAobLBe6nBlBDG"),
  ("bengali", "sVAkkBBRBwDBHCBCVBGBADDCICBCDIAEBBECYhmEABACBBAIAIACAEACCpv2BA"),
  ("bopomofo", "7WABCNAQBl8LCEJBMKDCAGA3GAJaBgD-54jBBqIE"),
  ("buginese", "0gGxCBft3BA"),
  ("buhid", "lpFBJT"),
  ("chakma", "6fCJgiBJm50CkBBR"),
  ("carian", "nFA2tHACAjeDAe3lBgB"),
  ("cherokee", "0YCBAGBWBLBe3ElCCFir5BfC"),
  ("qaac", "nFA8SADBBAcDBcDNg4KjDFGnIA86lBx"),
  ("cyprominoan", "080CBekL2D"),
  ("cypriot", "080CCEcBDI0mBFCABbBBBDACA"),
  ("cyrillic", "sVA3CCBABABACAFAeHfJgqFK0FAcCAvDA7vD-3CAsvzvCesVB0goBtB1BA"),
  ("devanagari", "sVA3iBiCCaBgqE6BBBm-Avp1BJ6F-0gyJ"),
  ("dogra", "4bCL0m7BJ6uxrB"),
  ("duployan", "nFAfSBBAYBnoKA3e3DaDFMDIHJCH"),
  ("elbasan", "nFAdSAqf0C7B"),
  ("ethiopic",
    "eYAhnD8CBDCGBABDC8BBDC0BBDCGBABDCOBoBBDC2CC-DZ6fGWJGBGBGBGBGBGBGBG29-FCFCFJGBGh5fCGBDBB" ++
    "BO"),
  ("georgian", "nFAh6BAmoC5BBAFACfBgsCaBCCqyA55D5BBAFA3IA"),
  ("glagolitic", "nFAbSABAuLACA1IAhrCAuqDA5tCvC3PAb1+AgceCGBQCGBBBE"),
  ("gunjalagondi", "nFAc5CBqv4CFBBB4BBBBFHJ"),
  ("masaramgondi", "4bCBqs4CGBBBbBDABBBIIJ"),
  ("gothic", "nFAcSBCA8BAuvvBw"),
  ("grantha", "haCBRB0UNs6EABB+CDBm-AfgsBDBHCBCVBGBBBEBJCBCCCAGAFGCGDEr2DBBA"),
  ("greek",
    "nFA8SBCABABAKAeBACAaBHCDBAEABABCBABTBuBOP69GEiBEEEkCCuJVCFC5BCFCHBABABAB+CkBBOBNCFBSCCB" ++
    "IuCA8GAuh2BAqeVeCRAv2kB5C"),
  ("gujarati", "haCBRBrICBIBCBVBGBBBECJBCBCCAPDCLHGg97BJ"),
  ("gurmukhi", "haCBRBrECBFEBCVBGBBBBBBCABEEBCCDAHDBAHQpd7BJ"),
  ("hangul", "08EvH1gHCEJBMOCGA3GAlBtChD+1C+1nzy3U3tKMWEgB9iJBqIEqB+DFCFCFCC"),
  ("han",
    "nFA8eLZBoCMlGwPBCBMBMBMCAGIrFAkEP0B5BJAgB7BoBgBPLjBAoCYKE0D+BvdG0CvfU0oBHofUdLC9DbxBqIE" ++
    "s3yBMG9rYRumHBedDvm9B0Bt8ECdkFCg9HPdT2dCtQ2fBaqEF99I"),
  ("hanunoo", "0pFW"),
  ("hebrew", "7YB8UmBIwEF89tBZBEBABBBBBJ"),
  ("hiragana", "10MCEJBMQFBAEBDlCCHqCB8ajBBqIEKAdBB13cBuISAzCd5QA"),
  ("oldhungarian", "q2IACAjeDAPAuhnBiBNiBHF"),
  ("javanese", "0caBdCBKEB"),
  ("kayahli", "08aBfB"),
  ("katakana", "5YAzAt6LCEJBMQFBAEBrCDDvCgHPgGeBBnCdniBBqIuBg2cBDBGBBBAvICiBAOD"),
  ("khojki", "6nCJ0a7BJ6ewRBeB"),
  ("kannada", "haCBRBqYMBCBWBJBECIBCBDHBFCBDCJBCsuDABBGAXABArp2BF"),
  ("kaithi", "6bCJ16JAuf+J62w2CKA"),
  ("latin",
    "1CZGZfBAMACAFWB+B0ODAKABCBAJABAGExOBBBAPCHBBB6BAFAEMlIBa6BB8tBA40D5BGgBFDFMB5CpBAHvHfJA" ++
    "1CANAQMjCApBBGAxAR8BnmC-nMA87+Hw5DDhCUOeJA1QaBBIBDmsTGq0BZGZ51CFB9BBI5qlB+GF"),
  ("limbu", "5bCAqsD+BLELEADL"),
  ("lineara", "780CcBc6BmJJVKH"),
  ("linearb", "000CLBZBSBBBOCN2BqDFCEcBDI"),
  ("lisu", "sVAQAs9LB46zfBgl+A"),
  ("lycian", "q2IA5hoBy"),
  ("lydian", "nFApbLAenmBZFA"),
  ("mahajani", "nFAc5CL0m7BJm8w6B"),
  ("mandaic", "0iBAvPxCA"),
  ("manichaean", "0iBAv31C6BEL"),
  ("meroitichieroglyphs", "t2IA29qB-"),
  ("malayalam", "haCBRBqyMBCBiBBCBFEPCZqqDAXAtp2BC"),
  ("modi", "g1aBJ6ex4CLJ"),
  ("mongolian", "00GZGoCHaB4sBAhuDBFDkipBM"),
  ("multani", "6jCJg02CGBABDBOBK"),
  ("myanmar", "00EvEe46BAhF+1D-g2xT"),
  ("nandinagari", "haCASB0yJpvDAIAHAlp2BFabyHCdBCK"),
  ("newa", "haCB2sEABBJAGABABAiotBrCBE"),
  ("nko", "cgBAOADA0NqBCCu9tBB"),
  ("oldturkic", "q2IAleDAfenB8C"),
  ("oriya", "haCBRBrMCBHCBCVBGBBBECICBCCHCEBBECR2bEAXA"),
  ("osage", "1YACAGAcCAna0C3BE3B"),
  ("olduyghur", "0iBAh51CAt3BZ"),
  ("oldpermic", "nFA8SAFCKAfLAcmvBaB"),
  ("phagspa", "20GBBA91CAiuDAt1+nB"),
  ("psalterpahlavi", "0iBAv91CRHDMG"),
  ("hanifirohingya", "cgBAOADA0BAjEAbh1C7BIJ"),
  ("runic", "0lFoC"),
  ("samaritan", "00CdBCOifJA"),
  ("shavian", "nFAos0CfB"),
  ("sharada", "haCA5sEABACBCAJACA2q2BFCA7awvC0cCH"),
  ("khudawadi", "4bCBam7BJmjwqBFJ"),
  ("sinhala", "4bCBr0BCBRDXBIBACGDAEFBABHGJCCtnDAe7tBT"),
  ("sogdian", "0iBAf72C9B"),
  ("sylotinagri", "4bCB0EJgg7BcB"),
  ("syriac", "3YBCBBAYCHBBBqWAOBCA0BAKKwAfENBrBCCgIKdcFABA"),
  ("tagbanwa", "lpFB9BMBCBB"),
  ("takri", "4bCBam7BJ6ixpBGJ"),
  ("taile", "0YBFBDAj9DJ68CzCE"),
  ("tamil", "haCBRBsQBBFDCBDDBBABBDBDCDLEEDCBDCAGAOUv6EAo03BAdgwABAnBB34DhBNA"),
  ("tangut", "gvLPfPAgffCA-vnG0Q+1DiD"),
  ("telugu", "haCBRBqUMBCBWBPCIBCBDHBBCBBCDCJHIl2EBBABAXA"),
  ("tifinagh", "2YABABDZAcgKnBHBOA"),
  ("tagalog", "0oFVJAVB"),
  ("thaana", "cgBAOBCA0CJmIhB0itBAKA"),
  ("thai", "sVAwAbBAdBAfmCpBFx"),
  ("tibetan", "0oD7CB3BE6BB3BBOBGEBd1ID"),
  ("tirhuta", "haCBRBfrEAMAPAtp2BJ62x7CIJ"),
  ("toto", "sVAjunD+"),
  ("yezidi", "cgBAOADA0CJm02C9BBCCB"),
  ("yi", "10MBFJCHvGA4oxc4BDmBqkWE"),
  ("qaai", "fYACABODGCACPBBBRBEBDgfBBraEdBCLmWlBBABEcQB2G-g8nBPQNf+A28jBdBCW0RCRHCG+DiqbYfH"),
  ("common",
    "A0CwFweBBLBBBEXA-A1OCBJBADABIBABFFECTuDAGABAtTAnGA4QAsaBAlMD71ELC0BB+BJBBBGBKDKBOR1BuB5" ++
    "BBCCFBwBQ9BCEpUWKVvy0IjTC9E0QWBXCJBDBABZ2NADANANAVAhQX-AhBOMD1FJFvC-A0eGvB88WZ6DCg+AOB4" ++
    "lUJWUCLBSBDjEAB-wFwFvDGBGKEiMMjBcB3giBsHDjNGWPQvCjDsBlHK6BCtBDQIBHzEsBlGTMTMmCxG7EkCB6C" ++
    "BBCACBCDBLBABGB0CBDCHBGBxBDBEBADGBjKC3JChBh3F3CcCsB2WbBE3DMOCOBOB4BKdFoBZBBNbBEIXFqEo+D" ++
    "QDMDpGGLEAPLEnBIJG7BIzCLEBOI7BnKINCMDKDoBBAEPCLEJHiEB6D601YA+vC")]

/-- The characters of the script with a name. -/
def script? (name : String) : Option CharSet :=
  (scripts.find? (·.1.contains name)).map fun entry => .ofPacked entry.2

/-- The characters that are used with the script with a name. -/
def scriptExtension? (name : String) : Option CharSet :=
  match scripts.find? (·.1.contains name) with
  | none => none
  | some (names, own) => some (.ofPacked ((names.head?.bind (scriptExtensions.lookup ·)).getD own))

end EventRules.Text
