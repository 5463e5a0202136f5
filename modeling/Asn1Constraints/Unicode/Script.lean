import Asn1Constraints.Unicode.CodePoints

/-!
The script of each character of Unicode 17, and the scripts beside it that a
character is used with.
-/

namespace Asn1Constraints.CodePoints

/-- The characters of each script, with the names of the script. -/
def scriptTable : List (List String × List String) := [
  (["Adlam", "Adlm"],
   ["d6iAcLEJEB"]),
  (["Ahom", "Ahom"],
   ["cfyA0COEW"]),
  (["Anatolian_Hieroglyphs", "Hluw"],
   ["craAsG"]),
  (["Arabic", "Arab"],
   ["bqAEBFBNBCB5BJLZBdLBbBcQbPhQbBFcKB2b8sQpNCePbAPdQEBeGd7D4cDFIIbBFbxyADB0BBBACABJBDBABAGAEAB",
    "ABABCBBBACABABABABABBBACDBGBDBDBABJBQFCBEBQbUB"]),
  (["Armenian", "Armn"],
   ["bjRbFCbRCCb9mDE"]),
  (["Avestan", "Avst"],
   ["ccyAbVDG"]),
  (["Balinese", "Bali"],
   ["gyAcMBbR"]),
  (["Bamum", "Bamu"],
   ["bjvAcXbqiIrY"]),
  (["Bassa_Vah", "Bass"],
   ["c6wQ3CF"]),
  (["Batak", "Batk"],
   ["g+AbTID"]),
  (["Bengali", "Beng"],
   ["cmADBHCBCVBGBADDCICBCDIAEBBECY"]),
  (["Beria_Erfe", "Berf"],
   ["c7vAYCY"]),
  (["Bhaiksuki", "Bhks"],
   ["chaAIBbMBNK2"]),
  (["Bopomofo", "Bopo"],
   ["xKBlqZbKdQ5"]),
  (["Brahmi", "Brah"],
   ["ceaAcNEbDJA"]),
  (["Braille", "Brai"],
   ["kaAh5"]),
  (["Buginese", "Bugi"],
   ["gqA1CB"]),
  (["Buhid", "Buhd"],
   ["f6AT"]),
  (["Canadian_Aboriginal", "Cans"],
   ["faAt5rQcFcan0P"]),
  (["Carian", "Cari"],
   ["cavAbQ"]),
  (["Caucasian_Albanian", "Aghb"],
   ["cbjQbTLA"]),
  (["Chakma", "Cakm"],
   ["ceiAbUBR"]),
  (["Cham", "Cham"],
   ["bkqAbWJNCJCD"]),
  (["Cherokee", "Cher"],
   ["e9AcVCFbf7ScP"]),
  (["Chorasmian", "Chrs"],
   ["cd9Q1"]),
  (["Common", "Zyyy"],
   ["AcA0F0bOBOBEXA5AoBbGFECTdUAJAGABAt3AGAOADAbAAe2AqEAeBBbgZAmVDjCAbpPCcHBgLBBAbgNANAHDBFBCCAy",
    "FLCcWBKDKBORbBb4bFBCCFB0BQbJCEuZWKV85iAtTCeJqAc3mSUBABYPHEDc1BDAc0BeTPbAbFJAbQb55cQbPAcYfHg",
    "oAb5wiAbBdGCfFJhUAfAAmLAOBuoSBgQJWbCBSBDeTAB50F0KKAbNBcAGBGKEiCCEbMDIcQMbTbMhE0bonEDd62h2Dn",
    "TGWPQc5dTb2hVKbGCb3DQIBH3Eb2gVTMTMcWJYeHcUBcGBBCACBCDBLBABGBcABDCHBGB1BDBEBADGBkTCjDCbRfdRc",
    "DcMb2wCbLEdDMOCOBOBbEKfNbYZBBNbLEIHBOFe0+YDQDMDgZGLEAPLEbXIJGbHI3CLEBOIbHkXINCMDKDbYBAEPCLE",
    "JHeSBdGybaGA4c5"]),
  (["Coptic", "Copt", "Qaac"],
   ["-CNkeQdTFG"]),
  (["Cuneiform", "Xsux"],
   ["ciaA8ZdGdOBELgD"]),
  (["Cypriot", "Cprt"],
   ["ccaAFCABbLBBDACA"]),
  (["Cypro_Minoan", "Cpmn"],
   ["cl8QdC"]),
  (["Cyrillic", "Cyrl"],
   ["baAeECfIf6QKfAAcMAedH5+cAc5v8OBbyqAb3bBA"]),
  (["Deseret", "Dsrt"],
   ["cbaAcP"]),
  (["Devanagari", "Deva"],
   ["ciAcQEOCZbh7A58qAJ"]),
  (["Dives_Akuru", "Diak"],
   ["cgiAGCACHBBB3BBCLJJ"]),
  (["Dogra", "Dogr"],
   ["cgaAb1"]),
  (["Duployan", "Dupl"],
   ["dpaAdKFMDIHJCD"]),
  (["Egyptian_Hieroglyphs", "Egyp"],
   ["cmaAbcVKd80"]),
  (["Elbasan", "Elba"],
   ["cbiAbH"]),
  (["Elymaic", "Elym"],
   ["cd-AW"]),
  (["Ethiopic", "Ethi"],
   ["eqAcIBDCGBABDCbIBDCbABDCGBABDCOBbYBDCcCC5DZgpGWJGBGBGBGBGBGBGBG-jCFCFCFJGBGcpfRGBDBBBO"]),
  (["Garay", "Gara"],
   ["cdkAbFD2IB"]),
  (["Georgian", "Geor"],
   ["efAbFBAFACbKBDc8QbKCCecAbFBAFA"]),
  (["Glagolitic", "Glag"],
   ["laAc5dm9AGBQCGBBBE"]),
  (["Gothic", "Goth"],
   ["cazQ0"]),
  (["Grantha", "Gran"],
   ["ceyADBHCBCVBGBBBECICBCCCAGAFGCGDE"]),
  (["Greek", "Grek"],
   ["7QDBCCDBAEABABCBABTBb4OPgjGEbSEEEcUAkAVCFCbFCFCHBABABAB4CbUBOBNCFBSCCBIjHAbcr4Avo0cORAbuc5c",
    "F"]),
  (["Gujarati", "Gujr"],
   ["cuBCBIBCBVBGBBBECJBCBCCAPDCLHG"]),
  (["Gunjala_Gondi", "Gong"],
   ["chlAFBBBbEBBBFHJ"]),
  (["Gurmukhi", "Guru"],
   ["cqBCBFEBCVBGBBBBBBCABEEBCCDAHDBAHQ"]),
  (["Gurung_Khema", "Gukh"],
   ["cyiAbZ"]),
  (["Han", "Hani"],
   ["luAZBcYMgVbPABAZIOD+Egn5cAup5wiAlNCdJ9iIBMGbeaJbjw5bAei3CfuNChjQPtNcnCq3bpCe6KFijJ"]),
  (["Hangul", "Hang"],
   ["eiAh5hrOBiBc3dR4cB49xB2uDk9DMWEbQj9E4DFCFCFCC"]),
  (["Hanifi_Rohingya", "Rohg"],
   ["cdiAbHIJ"]),
  (["Hanunoo", "Hano"],
   ["fzAU"]),
  (["Hatran", "Hatr"],
   ["cchASBBFE"]),
  (["Hebrew", "Hebr"],
   ["bmRbWI0EFb9jIZBEBABBBBBJ"]),
  (["Hiragana", "Hira"],
   ["mcBcVGCc-7Bi4SA3CqfNA"]),
  (["Imperial_Aramaic", "Armi"],
   ["cccAVBI"]),
  (["Inherited", "Zinh", "Qaai"],
   ["yAdPiVBoEK0AxADek1bNCLpECBMBGEAGADBgGb5qMBgCbAdzZDdLBbtlFPQN+PAhCAec0Abo+EbNCWrACRHCG4Dyl6S",
    "hP"]),
  (["Inscriptional_Pahlavi", "Phli"],
   ["cc7ASFH"]),
  (["Inscriptional_Parthian", "Prti"],
   ["cc6AVCH"]),
  (["Javanese", "Java"],
   ["bkmAcNCJEB"]),
  (["Kaithi", "Kthi"],
   ["ceeAcCKA"]),
  (["Kannada", "Knda"],
   ["deAMBCBWBJBECIBCBDHBFCBDCJBC"]),
  (["Katakana", "Kana"],
   ["mfBcZCChQPgQbOBcXbtaOJBbMbmcSDBGBBBAi5CbSAOD"]),
  (["Kawi", "Kawi"],
   ["chyAQBbID2"]),
  (["Kayah_Li", "Kali"],
   ["bkiAbNBA"]),
  (["Kharoshthi", "Khar"],
   ["ccqADBBFHBCB2CCEJHI"]),
  (["Khitan_Small_Script", "Kits"],
   ["c7-EAgy1oVbJA"]),
  (["Khmer", "Khmr"],
   ["f8Ac3CJGJpG5"]),
  (["Khojki", "Khoj"],
   ["ceqARBbO"]),
  (["Khudawadi", "Sind"],
   ["cevQb0FJ"]),
  (["Kirat_Rai", "Krai"],
   ["c7kAbZ"]),
  (["Lao", "Laoo"],
   ["duBBBABEBXBABWCEBABGBJCD"]),
  (["Latin", "Latn"],
   ["cBZGZbPAPAFWB4BoAbHEgq1bFGbQFDFMBcFcBh5lRANAQMeNBGA1ARbIcwX5+vCdFDcRUOzQbKBIBDt8WGba0ZGZcbF",
    "FBbJBIbv6F4GF"]),
  (["Lepcha", "Lepc"],
   ["haAbXDODC"]),
  (["Limbu", "Limb"],
   ["giA4BLELEADL"]),
  (["Linear_A", "Lina"],
   ["cbqAjWJVKH"]),
  (["Linear_B", "Linb"],
   ["caaALBZBSBBBOCNbCd0"]),
  (["Lisu", "Lisu"],
   ["bjgQbP+vQA"]),
  (["Lycian", "Lyci"],
   ["cauA2"]),
  (["Lydian", "Lydi"],
   ["ccjAZFA"]),
  (["Mahajani", "Mahj"],
   ["cekQbG"]),
  (["Makasar", "Maka"],
   ["chxAY"]),
  (["Malayalam", "Mlym"],
   ["diAMBCBbSBCBFEPCZ"]),
  (["Mandaic", "Mand"],
   ["ccA1CA"]),
  (["Manichaean", "Mani"],
   ["ccwAbGEL"]),
  (["Marchen", "Marc"],
   ["chdQ5CVBN"]),
  (["Masaram_Gondi", "Gonm"],
   ["chiAGBBBbLDABBBIIJ"]),
  (["Medefaidrin", "Medf"],
   ["c7sAc0"]),
  (["Meetei_Mayek", "Mtei"],
   ["bkxAWgJbNCJ"]),
  (["Mende_Kikakui", "Mend"],
   ["d6aAgECP"]),
  (["Meroitic_Cursive", "Merc"],
   ["ccnAXETCbN"]),
  (["Meroitic_Hieroglyphs", "Mero"],
   ["ccmA5"]),
  (["Miao", "Plrd"],
   ["c7yAcKEbYHQ"]),
  (["Modi", "Modi"],
   ["cfqAcELJ"]),
  (["Mongolian", "Mong"],
   ["gaABCABTGcYHbKb-nVM"]),
  (["Mro", "Mroo"],
   ["c6sA4BJEB"]),
  (["Multani", "Mult"],
   ["ceuAGBABDBOBK"]),
  (["Myanmar", "Mymr"],
   ["eaAe5bgkA4dB57cQT"]),
  (["Nabataean", "Nbat"],
   ["cceA4II"]),
  (["Nag_Mundari", "Nagm"],
   ["dzgQbJ"]),
  (["Nandinagari", "Nand"],
   ["cgnAHCbNCK"]),
  (["New_Tai_Lue", "Talu"],
   ["gmAbLEZGKDB"]),
  (["Newa", "Newa"],
   ["cfaAc1BE"]),
  (["Nko", "Nkoo"],
   ["b+Ab0CC"]),
  (["Nushu", "Nshu"],
   ["c7-BAqmOmL"]),
  (["Nyiakeng_Puachue_Hmong", "Hmnp"],
   ["dyiAbMDNCJEB"]),
  (["Ogham", "Ogam"],
   ["fuA2"]),
  (["Ol_Chiki", "Olck"],
   ["hcQbP"]),
  (["Ol_Onal", "Onao"],
   ["dzoQbKEA"]),
  (["Old_Hungarian", "Hung"],
   ["cdeAbSNbSHF"]),
  (["Old_Italic", "Ital"],
   ["cayAbDJC"]),
  (["Old_North_Arabian", "Narb"],
   ["ccuA5"]),
  (["Old_Permic", "Perm"],
   ["ca6QbK"]),
  (["Old_Persian", "Xpeo"],
   ["ca9AbDEN"]),
  (["Old_Sogdian", "Sogo"],
   ["cdyAbH"]),
  (["Old_South_Arabian", "Sarb"],
   ["cctA5"]),
  (["Old_Turkic", "Orkh"],
   ["cdaAcI"]),
  (["Old_Uyghur", "Ougr"],
   ["cd7QZ"]),
  (["Oriya", "Orya"],
   ["cyBCBHCBCVBGBBBECICBCCHCEBBECR"]),
  (["Osage", "Osge"],
   ["cbfQbDEbD"]),
  (["Osmanya", "Osma"],
   ["cbeA3CJ"]),
  (["Pahawh_Hmong", "Hmng"],
   ["c6yAcFKJBGBUFS"]),
  (["Palmyrene", "Palm"],
   ["ccdA5"]),
  (["Pau_Cin_Hau", "Pauc"],
   ["cgwAbY"]),
  (["Phags_Pa", "Phag"],
   ["bkcAbX"]),
  (["Phoenician", "Phnx"],
   ["cciA1DA"]),
  (["Psalter_Pahlavi", "Phlp"],
   ["cc8ARHDMG"]),
  (["Rejang", "Rjng"],
   ["bkjQbDLA"]),
  (["Runic", "Runr"],
   ["fvAcKDK"]),
  (["Samaritan", "Samr"],
   ["caAbNCO"]),
  (["Saurashtra", "Saur"],
   ["bkeAcFIL"]),
  (["Sharada", "Shrd"],
   ["cemAc5cmAH"]),
  (["Shavian", "Shaw"],
   ["cbcQbP"]),
  (["Siddham", "Sidd"],
   ["cfmAbVCbF"]),
  (["Sidetic", "Sidt"],
   ["cckAZ"]),
  (["SignWriting", "Sgnw"],
   ["dwaAuLPEBO"]),
  (["Sinhala", "Sinh"],
   ["dmBCBRDXBIBACGDAEFBABHGJCCca-MT"]),
  (["Sogdian", "Sogd"],
   ["cdzQbJ"]),
  (["Sora_Sompeng", "Sora"],
   ["cegQYHJ"]),
  (["Soyombo", "Soyo"],
   ["cgsQcS"]),
  (["Sundanese", "Sund"],
   ["g8Ab5iAH"]),
  (["Sunuwar", "Sunu"],
   ["cg+AbBOJ"]),
  (["Syloti_Nagri", "Sylo"],
   ["bkaAbM"]),
  (["Syriac", "Syrc"],
   ["byANBb1CCiQK"]),
  (["Tagalog", "Tglg"],
   ["fyAVJA"]),
  (["Tagbanwa", "Tagb"],
   ["f7AMBCBB"]),
  (["Tai_Le", "Tale"],
   ["gkQ3CE"]),
  (["Tai_Tham", "Lana"],
   ["grAb4B2CKGJGN"]),
  (["Tai_Viet", "Tavt"],
   ["bkuAcCYE"]),
  (["Tai_Yo", "Tayo"],
   ["dzwA4BVIB"]),
  (["Takri", "Takr"],
   ["cfuAbZGJ"]),
  (["Tamil", "Taml"],
   ["c8CBBFDCBDDBBABBDBDCDLEEDCBDCAGAOUce+FbRNA"]),
  (["Tangsa", "Tnsa"],
   ["c6tQcOBJ"]),
  (["Tangut", "Tang"],
   ["c7-AA5gx5qA4dBdS"]),
  (["Telugu", "Telu"],
   ["daAMBCBWBPCIBCBDHBBCBBCDCJHI"]),
  (["Thaana", "Thaa"],
   ["b8AbR"]),
  (["Thai", "Thai"],
   ["dqBbZF1"]),
  (["Tibetan", "Tibt"],
   ["dyAcHBbDEbGBbDBOBGEB"]),
  (["Tifinagh", "Tfng"],
   ["ljQbXHBOA"]),
  (["Tirhuta", "Tirh"],
   ["cfeAcHIJ"]),
  (["Todhri", "Todr"],
   ["cboAbT"]),
  (["Tolong_Siki", "Tols"],
   ["chnQbLEJ"]),
  (["Toto", "Toto"],
   ["dyuQ4"]),
  (["Tulu_Tigalari", "Tutg"],
   ["ce8AJBACABbFBJBACABDBJBBIB"]),
  (["Ugaritic", "Ugar"],
   ["ca8A3BA"]),
  (["Vai", "Vaii"],
   ["bjiAjL"]),
  (["Vithkuqi", "Vith"],
   ["cblQKBOBGBBBKBOBGBB"]),
  (["Wancho", "Wcho"],
   ["dywAbZFA"]),
  (["Warang_Citi", "Wara"],
   ["cgfAcSMA"]),
  (["Yezidi", "Yezi"],
   ["cduAbJBCCB"]),
  (["Yi", "Yiii"],
   ["biaAbeMDbW"]),
  (["Zanabazar_Square", "Zanb"],
   ["cgqAcH"])]

/-- Scripts whose characters in use are others than their own. -/
def sharedTable : List (String × List String) := [
  ("Adlam",
   ["bq5AbAAgqOAdpRAdov4cLEJEB"]),
  ("Arabic",
   ["bqAEBgWBbBcQbPhQbBFcKB2f6PAdpRAbtiOt5bAPdQEBeG-D1c7E4cDFIIbBFbxyADB0BBBACABJBDBABAGAEABABAB",
    "CBBBACABABABABABBBACDBGBDBDBABJBQFCBEBQbUB"]),
  ("Armenian",
   ["yIArIbFCbRCCb9mDE"]),
  ("Avestan",
   ["fXAllYBbxgObVDG"]),
  ("Bengali",
   ["v2AbuUBRB0DBHCBCVBGBADDCICBCDIAEBBECYewRABACBBAIAIACAEACCbc-ZA"]),
  ("Bopomofo",
   ["wHABCNAQBliVCEJBMKDCAGAgDAJbKdQ5bteFBi0E"]),
  ("Buginese",
   ["gqA1CBbd9PA"]),
  ("Buhid",
   ["fzVBJT"]),
  ("Carian",
   ["fXAh9CACAdoTAbvdObQ"]),
  ("Caucasian_Albanian",
   ["yEAbMAbMAcaoRbTLA"]),
  ("Chakma",
   ["cpGJbsQJcafWbUBR"]),
  ("Cherokee",
   ["yACBAGBWBLBedOcVCFbf7ScP"]),
  ("Common",
   ["AcA0F0bOBLBBBEXA5AoBCBJBADABIBABFFECTd4AGABAt3AgXAqEAbk2AmVDebHLCbAB4BJBBBGBKDKBORbBb4bFBCC",
    "FB0BQbJCEuZWKV85iAtTCeJqAWBXCJBDBABZnCADANANAVAqRX5AbROMDfBJFc55AgoAb5wiIZdGC+QAOBuvEJWUCLB",
    "SBDeTAB50F0Fd5GBGKEmSMbTbMbsqDh2DnTGWPQc5dTb2hVKbGCb3DQIBH3Eb2gVTMTMcW1GeHcUBcGBBCACBCDBLBA",
    "BGBcABDCHBGB1BDBEBADGBkTCjDCbRfdRcDcMb2wCbLEdDMOCOBOBbEKfNbYZBBNbLEIXFe0+YDQDMDgZGLEAPLEbXI",
    "JGbHI3CLEBOIbHkXINCMDKDbYBAEPCLEJHeSBdGybaGA4c5"]),
  ("Coptic",
   ["fXAsIADBBAdMBdMNkeQdTFGiXAbvgI1"]),
  ("Cypriot",
   ["caiACEbMDIbwAFCABbLBBDACA"]),
  ("Cypro_Minoan",
   ["caiABluOdC"]),
  ("Cyrillic",
   ["v2AcDCBABABACAFAhOjPf6QKfAAcMAd5Ad-H5cDA9-2c5v8OBbyqAb3bBA"]),
  ("Devanagari",
   ["v2AbsDcSCbKe6QbGBB-WAbbz5JfG58qAJ"]),
  ("Dogra",
   ["clELbhwAJ7+Gb1"]),
  ("Duployan",
   ["fXAsPBBAYBkyXAddoDdKFMDIHJCH"]),
  ("Elbasan",
   ["fXAsNAcap0bH"]),
  ("Ethiopic",
   ["yOAdxRcIBDCGBABDCbIBDCbABDCGBABDCOBbYBDCcCC5DZgpGWJGBGBGBGBGBGBGBG-jCFCFCFJGBGcpfRGBDBBBO"]),
  ("Garay",
   ["bqMAOADAcbzAbFD2IB"]),
  ("Georgian",
   ["fXAbgRAcyWbFBAFACbPc8QbKCC80AdfFbFBAFAiDA"]),
  ("Glagolitic",
   ["fXAsLABAl4ACAiBAc7RAd64Ac9Fc5pDA+bLAcomQGBQCGBBBE"]),
  ("Gothic",
   ["fXAsMBCAbIAb--40"]),
  ("Grantha",
   ["ckRBRBuANeg2ABB4CDB-WAb8qPDBHCBCVBGBBBEBJCBCCCAGAFGCGDEdc1BBA"]),
  ("Greek",
   ["fXAsIBCABABAKAbOACAbKHCDBAEABABCBABTBb4OPgjGEbSEEEcUCj4VCFCbFCFCHBABABAB4CbUBOBNCFBSCCBIc4A",
    "gIAbcr4Avo0cORAbuc5cF"]),
  ("Gujarati",
   ["ckRBRBi1CBIBCBVBGBBBECJBCBCCAPDCLHGbhjQJ"]),
  ("Gunjala_Gondi",
   ["fXAcfMBce-0FBBBbEBBBFHJ"]),
  ("Gurmukhi",
   ["ckRBRBe1CBFEBCVBGBBBBBBCABEEBCCDAHDBAHQbhnZJ"]),
  ("Gurung_Khema",
   ["clFAcv80bZ"]),
  ("Han",
   ["fXAloIZBcYMgV0PBCBMBMBMCAGIf1AeUPbAbFJAbQbHbYbQPLbTAcYYKEdA4Bgn5cAup5byAHupYlNCdJ7LBi0E8d2B",
    "MGy7JRhw4BdnObjw5bAei3CfuNChjQPtNcnCq3bpCe6KFijJ"]),
  ("Hangul",
   ["eiAh5hqBCEJBMOCGAgDAbVc3dR4cB49xB2uDk9DMWEbQjsJBi0Eb04DFCFCFCC"]),
  ("Hanifi_Rohingya",
   ["bqMAOADAbAAeTAcbrLbHIJ"]),
  ("Hanunoo",
   ["fzAW"]),
  ("Hebrew",
   ["yHBuIbWI0EFb9jIZBEBABBBBBJ"]),
  ("Hiragana",
   ["maBCEJBMQFBAEBDcVCHc0BbtkIBi0EKAbNBbmdBi4SA3CqfNA"]),
  ("Inherited",
   ["yPACABODGCACPBBBRBEBDbpQBek1bNCLwWbVBABEqMBgC5bxiQPQN+PAbtiCbNCWrACRHCG4Dyl6ShP"]),
  ("Javanese",
   ["bkmAcNBKEB"]),
  ("Kaithi",
   ["clGJjgBA+p4J6cGcCKA"]),
  ("Kannada",
   ["ckRBRBy0MBCBWBJBECIBCBDHBFCBDCJBCd+2ABBGAXABAbcz1F"]),
  ("Katakana",
   ["yFA3Alg3CEJBMQFBAEBc1DDc5hQPgQbOBcXbsxNBi0b4bmcQDBGBBBAi5CbSAOD"]),
  ("Kayah_Li",
   ["bkiAbP"]),
  ("Khojki",
   ["cxGJbhkAJ6oGRBbO"]),
  ("Khudawadi",
   ["clEBbhwKJ6tWb0FJ"]),
  ("Latin",
   ["cBZGZbPAMACAFWB4BoADAKABCBAJABAGE1OBBBAPCHBBBbGAFAEMiVBbgKBb9IAdaEbFGbQFDFMBcFbZAHh5jPAcBAN",
    "AQMcTAbZBGA1ARbIcwX5mXA+hIH0dFDcRUOjOAqBbKBIBDt8WGba0ZGZcbFFBbJBIbv6F4GF"]),
  ("Limbu",
   ["clFAd804BLELEADL"]),
  ("Linear_A",
   ["caiHbMbgMjWJVKH"]),
  ("Linear_B",
   ["caaALBZBSBBBOCNbCd0FCEbMDI"]),
  ("Lisu",
   ["v2AQAlj2B9gEbP+vQA"]),
  ("Lycian",
   ["ic0AbyrF2"]),
  ("Lydian",
   ["fXAllZAbwxOZFA"]),
  ("Mahajani",
   ["fXAcfMLbhwAJ6iWbG"]),
  ("Malayalam",
   ["ckRBRB80MBCBbSBCBFEPCZd60AXAbcz3C"]),
  ("Mandaic",
   ["bsAAp51CA"]),
  ("Manichaean",
   ["bsAAcbd5bGEL"]),
  ("Masaram_Gondi",
   ["clEBce80GBBBbLDABBBIIJ"]),
  ("Meroitic_Hieroglyphs",
   ["ic3Ab6jC5"]),
  ("Modi",
   ["bkbQJ7oGcELJ"]),
  ("Mongolian",
   ["gaAZGcYHbKb8EAd+RBFDbzsUM"]),
  ("Multani",
   ["ctGJccaQGBABDBOBK"]),
  ("Myanmar",
   ["eaAe5bgeOAfR4dB57cQT"]),
  ("Nandinagari",
   ["ckRASB8AJd-ZAIAHAbczVF8lKHCbNCK"]),
  ("Newa",
   ["ckRBe8CABBJAGABABAb9ySc1BE"]),
  ("Nko",
   ["bqMAOADAnAb0CCb9j4B"]),
  ("Ol_Onal",
   ["clEBdxdKbKEA"]),
  ("Old_Hungarian",
   ["ic0ACAdoTAPAbxr4bSNbSHF"]),
  ("Old_Permic",
   ["fXAsIAFCKAlPAb-wMbK"]),
  ("Old_Turkic",
   ["ic0AdoVAbxoPcI"]),
  ("Old_Uyghur",
   ["bsAAcbfRAbd3Z"]),
  ("Oriya",
   ["ckRBRBm1CBHCBCVBGBBBECICBCCHCEBBECRelCAXA"]),
  ("Osage",
   ["yBACAGAcMAcakXbDEbD"]),
  ("Phags_Pa",
   ["gaCBBAcbJAd+SA+b3bX"]),
  ("Psalter_Pahlavi",
   ["bsAAcbj5RHDMG"]),
  ("Runic",
   ["fvAcY"]),
  ("Samaritan",
   ["caAbNCOjpSA"]),
  ("Sharada",
   ["ckRAe8FABACBCAJACAbc6CFCA6kHc5cmAH"]),
  ("Shavian",
   ["fXAca8YbP"]),
  ("Sinhala",
   ["clEBba1CBRDXBIBACGDAEFBABHGJCCdx3Ab9hOT"]),
  ("Sogdian",
   ["bsAAcchPbJ"]),
  ("Sunuwar",
   ["yABBAJACA2ADAcgeObBOJ"]),
  ("Syloti_Nagri",
   ["clEBeAJbhqQbM"]),
  ("Syriac",
   ["yDBCBBAYCHBBBw0AOBCAbAAKK0AePNBb1CCiQKfmNABA"]),
  ("Tagalog",
   ["fyAVJAVB"]),
  ("Tagbanwa",
   ["fzVBbJMBCBB"]),
  ("Tai_Le",
   ["yABFBDAdjTJciG3CE"]),
  ("Takri",
   ["clEBbhwKJ7sGbZGJ"]),
  ("Tamil",
   ["ckRBRBq2BBFDCBDDBBABBDBDCDLEEDCBDCAGAOUeg5AbdaYA6qNABAbXBdeDbRNA"]),
  ("Tangut",
   ["l-QPpPAcppQA5gx5qA4dBdS"]),
  ("Telugu",
   ["ckRBRBu0MBCBWBPCIBCBDHBBCBBCDCJHIecVBBABAXA"]),
  ("Thaana",
   ["bqMAOBCAcAJiWbRb9sAAKA"]),
  ("Thai",
   ["v2A0AbLAbNAcwPbZF1"]),
  ("Tibetan",
   ["dyAcHBbDEbGBbDBOBGEBibND"]),
  ("Tifinagh",
   ["yCABABDZAkqMbXHBOA"]),
  ("Tirhuta",
   ["ckRBRBe7PAMAPAbcz3J7cGcHIJ"]),
  ("Todhri",
   ["yBACACAJABAcKAcatBbT"]),
  ("Toto",
   ["v2Adx+T4"]),
  ("Tulu_Tigalari",
   ["dhGJeaCABAbcz1Ff1A6uOJBACABbFBJBACABDBJBBIB"]),
  ("Yezidi",
   ["bqMAOADAcAJccaWbJBCCB"]),
  ("Yi",
   ["maBBFJCHg5A7yEbeMDbWwu0E"])]

end Asn1Constraints.CodePoints
