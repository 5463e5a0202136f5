import Asn1Constraints.Unicode.Category

/-!
Traits that a character of Unicode 17 has or does not have. Some are listed, the
others follow from general categories and listed traits.
-/

namespace Asn1Constraints.CodePoints

/-- Traits that are listed character by character, each with its names. -/
def traitTable : List (List String × List String) := [
  (["ASCII_Hex_Digit", "AHex"],
   ["bQJHF0F"]),
  (["Bidi_Control", "Bidi_C"],
   ["bq2AgpRB0EbXD"]),
  (["Changes_When_Casefolded", "CWCF"],
   ["cBZc0AKWBHbAABABABABABABABABABABABABABABABABABABABABABABABABABABABACABABABABABABABABBBABABA",
    "BABABABABABABABABABABABABABABABABABABABBBABABABBBABBBCCDBBBCDBBBBABABBBACABBBCBABBDAHBBBBBB",
    "ABABABABABABABACABABABABABABABABACBBABCBABABABABABABABABABABABABABABABABABABABABABABABABABA",
    "BABABAHBBBCABDBABABABAhWAbKABADAIAGABCBABBBQBIWAMCDBBABABABABABABABABABABABABBCBBABBCbSbQAB",
    "ABABABABABABABABABABABABABABABAJABABABABABABABABABABABABABABABABABABABABABABABABABABABBBABA",
    "BABABABACABABABABABABABABABABABABABABABABABABABABABABABABABABABABABABABABABABABABABABABABAB",
    "ABABABABABABACbFbQAcyYbFBAFAzKFceCJGbKCCkAABABABABABABABABABABABABABABABABABABABABABABABABA",
    "BABABABABABABABABABABABABABABABABABABABABABABABABABABABABABABABABABABABABABABABABABABABABAB",
    "ABABABABAFBCABABABABABABABABABABABABABABABABABABABABABABABABABABABABABABABABABABABABABABABA",
    "BABABABABABABABABAJHIFKHIHIFLABABABAIHQbPCCCFFCCFLDMEFCCFjJADBGAbNPTAzSZbzQbPbQABCCABABABDB",
    "ACAICBABABABABABABABABABABABABABABABABABABABABABABABABABABABABABABABABABABABABABABABABABABA",
    "BABABABABABAIABAEA+kNABABABABABABABABABABABABABABABABABABABABABABATABABABABABABABABABABABAB",
    "ABAeHABABABABABABADABABABABABABABABABABABABABABABABABABABABABABABABABABABABABABAKABABBBABAB",
    "ABAEABACABADABABABABABABABABABABEBEBABABABABABABABDBABBBABABABABABABABAYA70cPt6AGMEbaJZbgFb",
    "HeIbDe2KBOBGBBbxKbSe3Vcz05vmA5cAY+sHbB"]),
  (["Changes_When_Lowercased", "CWL"],
   ["cBZdFWBGbBABABABABABABABABABABABABABABABABABABABABABABABABABABABACABABABABABABABACABABABABA",
    "BABABABABABABABABABABABABABABABABABABBBABADBBABBBCCDBBBCDBBBBABABBBACABBBCBABBDAHBBBBBBABAB",
    "ABABABABABACABABABABABABABABACBBABCBABABABABABABABABABABABABABABABABABABABABABABABABABABABA",
    "BAHBBBCABDBABABABAjBABADAIAGABCBABBBQBIbDAIABABABABABABABABABABABAFACABBCbSbQABABABABABABAB",
    "ABABABABABABABABABAJABABABABABABABABABABABABABABABABABABABABABABABABABABABBBABABABABABACABA",
    "BABABABABABABABABABABABABABABABABABABABABABABABABABABABABABABABABABABABABABABABABABABABABAB",
    "ACbFc6JbFBAFAwScVceTAGbKCCkAABABABABABABABABABABABABABABABABABABABABABABABABABABABABABABABA",
    "BABABABABABABABABABABABABABABABABABABABABABABABABABABABABABABABABABABABABABABABABABABAJABAB",
    "ABABABABABABABABABABABABABABABABABABABABABABABABABABABABABABABABABABABABABABABABABABABABABA",
    "BAJHIFKHIHIFLABABABAIHYHIHIHIELELDMELEjJADBGAbNPTAzSZbzQbPbQABCCABABABDBACAICBABABABABABABA",
    "BABABABABABABABABABABABABABABABABABABABABABABABABABABABABABABABABABABABABABABABABABAIABAEA+",
    "kNABABABABABABABABABABABABABABABABABABABABABABATABABABABABABABABABABABABABAeHABABABABABABAD",
    "ABABABABABABABABABABABABABABABABABABABABABABABABABABABABABABAKABABBBABABABAEABACABADABABABA",
    "BABABABABABABEBEBABABABABABABABDBABBBABABABABABABABAYAvzLZbgFbHeIbDe2KBOBGBBbxKbSe3Vcz05vmA",
    "5cAY+sHbB"]),
  (["Changes_When_Titlecased", "CWT"],
   ["dBZb0AbJXBHBABABABABABABABABABABABABABABABABABABABABABABABABABABABACABABABABABABABBBABABABA",
    "BABABABABABABABABABABABABABABABABABABACABABCCABACADAFACADCCACABABACAEACADABACADABAEABBBBBAB",
    "ABABABABABABABBBABABABABABABABABCBABADABABABABABABABABABABABABABABABABABABABADABABABABABABA",
    "BABAIACBBAEABABABABFBBBABBDBBDBECABBCAHACABBDFFAKBfGAbLABADADCSA1bCBBDCBABABABABABABABABABA",
    "BABEBACACAbUbPBABABABABABABABABABABABABABABABABAJABABABABABABABABABABABABABABABABABABABABAB",
    "ABABABABABACABABABABABABBBABABABABABABABABABABABABABABABABABABABABABABABABABABABABABABABABA",
    "BABABABABABABABABABABABABABABAbRbGdtQFceCIBAhOADAQAdSABABABABABABABABABABABABABABABABABABAB",
    "ABABABABABABABABABABABABABABABABABABABABABABABABABABABABABABABABABABABABABABABABABABABABABA",
    "BABABABABABABABABABGFABABABABABABABABABABABABABABABABABABABABABABABABABABABABABABABABABABAB",
    "ABABABABABABABABABABABABIIFKHIHIFKHIHINCHIHIHIEBBGADCBBIDCBIHKCBBkWAbBPEA6LZb6GbPBADBBABABA",
    "GACAKABABABABABABABABABABABABABABABABABABABABABABABABABABABABABABABABABABABABABABABABABABAB",
    "ABABABABABABAIABAEAMbFBAFA+iTABABABABABABABABABABABABABABABABABABABABABABATABABABABABABABAB",
    "ABABABABABAeHABABABABABABADABABABABABABABABABABABABABABABABABABABABABABABABABABABABABABAKAB",
    "ACABABABABAEAEABBCABABABABABABABABABALABABABABABABABAEABACABABABABABABABA0A62A2cPt6AGMEbbJZ",
    "bgNbHeIbDe1KBOBGBBbyDbSd3Vcz05vmA5b1Y+sObB"]),
  (["Changes_When_Uppercased", "CWU"],
   ["dBZb0AbJXBHBABABABABABABABABABABABABABABABABABABABABABABABABABABABACABABABABABABABBBABABABA",
    "BABABABABABABABABABABABABABABABABABABACABABCCABACADAFACADCCACABABACAEACADABACADABAFBBBBBBAB",
    "ABABABABABABBBABABABABABABABABBBBBADABABABABABABABABABABABABABABABABABABABADABABABABABABABA",
    "BAIACBBAEABABABABFBBBABBDBBDBECABBCAHACABBDFFAKBfGAbLABADADCSA1bCBBDCBABABABABABABABABABABA",
    "BEBACACAbUbPBABABABABABABABABABABABABABABABABAJABABABABABABABABABABABABABABABABABABABABABAB",
    "ABABABABACABABABABABABBBABABABABABABABABABABABABABABABABABABABABABABABABABABABABABABABABABA",
    "BABABABABABABABABABABABABABAbRbGc6IbKCCxYFceCIBAhOADAQAdSABABABABABABABABABABABABABABABABAB",
    "ABABABABABABABABABABABABABABABABABABABABABABABABABABABABABABABABABABABABABABABABABABABABABA",
    "BABABABABABABABABABABABGFABABABABABABABABABABABABABABABABABABABABABABABABABABABABABABABABAB",
    "ABABABABABABABABABABABABABABIIFKHIHIFKHIHINCbUBBEABADCBBEADDCBIHKCBBEAkRAbBPEA6LZb6GbPBADBB",
    "ABABAGACAKABABABABABABABABABABABABABABABABABABABABABABABABABABABABABABABABABABABABABABABABA",
    "BABABABABABABABABAIABAEAMbFBAFA+iTABABABABABABABABABABABABABABABABABABABABABABATABABABABABA",
    "BABABABABABABABAeHABABABABABABADABABABABABABABABABABABABABABABABABABABABABABABABABABABABABA",
    "BAKABACABABABABAEAEABBCABABABABABABABABABALABABABABABABABAEABACABABABABABABABA0A62A2cPt6AGM",
    "EbbJZbgNbHeIbDe1KBOBGBBbyDbSd3Vcz05vmA5b1Y+sObB"]),
  (["Dash"],
   ["bNAbk2AbTAdsBAbaFAcaJFb3AbHAPAmGAdaEACA5BEA2An4ATAdPAbtmQBbFAKAfJAdtAAj4A"]),
  (["Default_Ignorable_Code_Point", "DI"],
   ["fNAvBAwMAc6CBbsTBcVEb-1E0EbRPehUAbte1PhPAfAAcPIbpfHDfgPHyluFd-5"]),
  (["Deprecated", "Dep"],
   ["kJAbjJAciDABAcbJBcgFFvZB7xgWA"]),
  (["Diacritic", "Dia"],
   ["c4ABAcHAGAEACBpXe4BHFFRBEAJBh3EgRAbXbMBABBBBBAeDHEBeGBEBDCcD0c1Kb0KbCBd4HbJJQ1b3AQADD2AcKAQ",
    "AdOAQAdOAQAbPCb2AQAHAdXAdOAQAdOAQAdNBQAd2AdPAMFBAdLANEcLB1ABABAEBcCCBBb4AdQABBbIBEEZGBAKBwB",
    "C9UB4AeUKJAk1CjEAUHCAbQOCKDOCLcIAPAbGIbWBb0ALBcCBcAFcSYEAGACCbSb4bQbDFLbFKn3ABCLCNCNCNBdhQC",
    "j3Ap0FdJDc5A9lSAMBBA2BcSBObBdGCdGAGBMAbFAeXA1RbZDbEAc5AMAbEAeVCcBDbTAdEEJCeABtzQAyBPiOABAbP",
    "AbNBcDAx2Abe5FBbJBIt3CEAfFBr1FbGA0EmMACCcGKbRDgAAbJAcIBdYBb4AcMAJCdIBfSBcQBQAYGDEcZCBBNBc5A",
    "DAd1Bh1Bd4AdWBdTAiNBiCBEAe2AcTASAcRAnFAiCABBcRAcBAlHBXAfhMOlgZAcoAEb1GrUBrCQcQBp-4DBGBBhyBb",
    "NCWrACDFIHCG4DduCb3gCGlXAb3Dx4BxAGdNCBC"]),
  (["Emoji"],
   ["bDAGAFJdPAEAh8NAMAgYAWAc0FPBlPBMAfGAZKECgHAhHBKAJAb0DBEJACACBCAEACABBCADADBICFABAFLLBCABBBA",
    "SACBSFBABBDBFACBEBLBFBCAFBBABBUBFFBDCAEACACFBACABABAGADAGAKBPACAEABAECBALBbQCJAOAOAlUBoPCTB",
    "bTAEAbg0AMAsZABAdplKAgKAfABMBOACJcLZBBXAUACIVBfObBCdPCBBCCcSCCBiGBb4LFBXHBCHMACDCAEBNBCAIBJ",
    "AFCMCICCABAEAGADAGcVbQcFFHCDDJDABBDACJhDLEAi1bOBJBfYdQMDKDbYBAEPCLEJ"]),
  (["Emoji_Component", "EComp"],
   ["bDAGAFJh+TAgVAbxjLAb8+WZp1EbnQDybtMc5"]),
  (["Emoji_Modifier", "EMod"],
   ["d8-1E"]),
  (["Emoji_Modifier_Base", "EBase"],
   ["jq3Ag1AQDdtdXAb2CCACCdVBCKVSDAECBCHABAYAgJBEAVAEBfOCDEcTAQCJALAr5ACAIHGAJJCCbYAb3BBBBARCBMh",
    "FCbKI"]),
  (["Emoji_Presentation", "EPres"],
   ["iy0BgNDDACAqJBVBbSLbLATANAIBRBFBIAFAVAHBBAEACAHAEB2AbDABAECBAb3CYAOA61BbTAEAdrfOAgKAf4ACJcL",
    "ZBAYAUACEBCVBfObAMIBcFBVMbKEEMQDADcGBABf0Cb4NDBXSA0BNAcWcUbQcFGADCCDDDLBHIhDLEAi1bOBJBfYdQM",
    "DKDbYBAEPCLEJ"]),
  (["Extended_Pictographic", "ExtPict"],
   ["fJAEAh8NAMAgYAWAc0FPBlPBMAfGAZKECgHAhHBKAJAb0DBEJACACBCAEACABBCADADBICFABAFLLBCABBBASACBSFB",
    "ABBDBFACBEBLBFBCAFBBABBUBFFBDCAEACACFBACABABAGADAGAKBPACAEABAECBALBbQCJAOAOAlUBoPCTBbTAEAbg",
    "0AMAsZABAdplKAbHDdELPBPAOBbFJdQBMBOACJTbX1OKAUACIBDJWGf1CdPCBBCCcSCCBDFh3Bb4LFBXHBCHMACDCAE",
    "BNBCAIBJAFCMCICCABAEAGADAGcVbQcFFHCQDABFCMg0bFMDbYHKFbIH4BMDCNJbGMbOBJBfYcYHOeRiA-3"]),
  (["Extender", "Ext"],
   ["fXAqYB7OAnZAtWAeJAcZAxQAd5AckDAbYAtDAmOAcEAe8JAbLEdHBc3C7yWAbpWA+CAWAeJAdMAVBvd1AcaQBboLA1A",
    "EAbgHAjFAdUBpSCbgPA6AAtlIBbe2BBAOB8kIBbfRA6UC"]),
  (["Grapheme_Link", "Gr_Link"],
   ["ckNAd5Ad5Ad5Ad5Ad5Ad5Ad5AdNBQAd2AdPAd5AgJAfUBbwZB4Ae3AuNAhDAdFBcGBemLA+uGAbFAeXAeOAdMAjVAhW",
    "AxsRAbqGAbJAOAbZAdZBeLAdUAfUAdCAeACdRAd5Ah2Ad5AdWAdUAiNAiDBfBAcTASAcRAnFAiEBcRAnJBqpMA"]),
  (["Hex_Digit", "Hex"],
   ["bQJHF0Fb-vJJHF0F"]),
  (["Hyphen"],
   ["bNAd5Abg2Aet1AcaJBdqFAxDAbtlHAfJAcXA"]),
  (["IDS_Binary_Operator", "IDSB"],
   ["l-QBCJpRA"]),
  (["IDS_Trinary_Operator", "IDST"],
   ["l-SB"]),
  (["IDS_Unary_Operator", "IDSU"],
   ["l-4B"]),
  (["ID_Compat_Math_Continue"],
   ["fSBFAh9WADKBOlTAEAWAdnfCAZA5AZA5AZA5AZA5AZA"]),
  (["ID_Compat_Math_Start"],
   ["iqCAEAWAdnfCAZA5AZA5AZA5AZA5AZA"]),
  (["Ideographic", "Ideo"],
   ["maGBZIOC+Fgn5cAup5wiAlNCdJ9iKANEJhgVbJ5dBdSi73mLtiEbjw5bAei3CfuNChjQPtNcnCq3bpCe6KFijJ"]),
  (["Join_Control", "Join_C"],
   ["iaMB"]),
  (["Logical_Order_Exception", "LOE"],
   ["dsAEd1EcxQCCAbeh0BCABB"]),
  (["Modifier_Combining_Mark", "MCM"],
   ["bsUBCAeDAGADBpBBBCDA5A"]),
  (["Noncharacter_Code_Point", "NChar"],
   ["b-oQ5qOBb--4Bb--4Bb--4Bb--4Bb--4Bb--4Bb--4Bb--4Bb--4Bb--4Bb--4Bb--4Bb--4Bb--4Bb--4Bb--4B"]),
  (["Other_Alphabetic", "OAlpha"],
   ["6FA3MsANBABBBBBAcIKbQMBGQAdFGEDCBEAbDA4PdGKdFBDIBCBDdKAb2LDGGTbWBCOBBFCKB3Cb0GCBCBKAKB3Cb0E",
    "EBCBEA4BDALCb0HBCBBVBWCECb0GCBCBJBKB4Ab1EDCBCKAbIEbZGBCBCIBLB3Cb0GBCBCIBLBPAMDb0GBCBCKAKB3C",
    "cLFBABHSBb3ACGSAdDACFBBQAfDSJKBbDdOLBACDXDECBCCGDDNLBAKDbtUB4B4B4BcCSf2BbCAdWLEIg4EbZJCTcKB",
    "LCbREbQOb2C4ICBbZKbSSm2bBbwBbTchW5+dUHbCBlCAIAXEcYBbSPBAbZAbGE2LbNDbQLbFAcDNMAIBbNCbSABCCBF",
    "AbMEFAhNHtzTAccXEbuGCBBFDyUDcBAkBBcNCiDCbVNbNBLCbNIJAb3CbELSBbZCbQMOBc2ICAGACAe3JXDb0GCBCBK",
    "AKBcUIBACABDBBdHMBCdKRhNGCG3BcSOBAdKKdHNiBMhXFBBCBDABAeOGCFEA2JbKEBDSKbONgIHgHHBGcTVBNd0FDA",
    "BBBCBADAcCEBBBDk2DJBBAbQGDCqo3QdrAABbWHDc3BtfMAi7BGBQCGBBBEdEAbsTACAHBFAsRAb-IZGZGZ"]),
  (["Other_Default_Ignorable_Code_Point", "ODI"],
   ["6PAdqPBbsTBcfPAeh4Abtr1AcPI6aaHAB3dAd5hQdqP"]),
  (["Other_Grapheme_Extend", "OGr_Ext"],
   ["cn4AYAlGAYAdGAYAhIABAEBBBJBdHAYAdXAPAcjVA4AbaAAFABAFBdFAcHBbaYAebBB+jDAdMAvo3BerAAdUAiIAOAJ",
    "AdAAJACABCFAhAAMAhRAiGAtZAMAbqDAufOBylTBGFylvNc5"]),
  (["Other_ID_Continue", "OIDC"],
   ["fXAwPAd-BIbtIAbrRBehNAbttJA"]),
  (["Other_ID_Start", "OIDS"],
   ["geFBceRAVAd7MB"]),
  (["Other_Lowercase", "OLower"],
   ["fKAPApVIHB4EdAAbUAdmBAdbPb4NAbCbEvRANAQMgTP6QZb8SB+q4BgSAeADDB7CDJAxaWACCBbJBIbwdVb3"]),
  (["Other_Math", "OMath"],
   ["c4A7RCCA0BCBhbAA1CLAbADYBOBcBMEADBEESAEACJBADEGADBCBBCBFDDFEcLECDBBBBBABECBEBERCBBABGBAGBjC",
    "DfIBBAYARAn3BMIFEFBCBDEOABACFYBbZABA3DJBkWB5JmTVb5DbABbvdDABAEAgTABAbvgBcUBcGBBCACBCDBLBABG",
    "BcABDCHBGB1BDBEBADGBkTCYBYB4BYB4BYB4BYB4BYBHCbRfqADB0BBBACABJBDBABAGAEABABABCBBBACABABABABA",
    "BBBACDBGBDBDBABJBQFCBEBQ"]),
  (["Other_Uppercase", "OUpper"],
   ["ilAP6GZdtdAZGZGZ"]),
  (["Pattern_Syntax", "Pat_Syn"],
   ["bBOKG0DBA0DbCGBABBBABBEAEADAXA5AhyYXIOCSBJjRwPfAtV4bdLqAd5mBCEYPAbtiNBiFB"]),
  (["Pattern_White_Space", "Pat_WS"],
   ["JESAdEAh8IBYB"]),
  (["Prepended_Concatenation_Mark", "PCM"],
   ["bqAFgXAbRAmABcQAcb+0APA"]),
  (["Quotation_Mark", "QMark"],
   ["bCAEAeDAPAh62HZBdqHAoJDNCbtrBDf3AEAc0B"]),
  (["Radical"],
   ["luAZBcYMgV"]),
  (["Regional_Indicator", "RI"],
   ["d8pGZ"]),
  (["Sentence_Terminal", "STerm"],
   ["bBAMAQAbkJAeTCfUAbLChWAb3ABADBjFBbxEByWAEByFAgGBe3BbNAFAj0BlCDfCBKBCB3Cf1BcBB9EAXBJCdfPCjSA",
    "NAWBnNA9h2AiOBhDADAl4BcWBc5AeYBeTCeQBhZAurGACBb1ADBfJAMAQAcBAcxUBbh3EbMDf3BdVDd5CeBBGAQBcYB",
    "BBdMAjKBdVBlVBFOdJBhZCqFABAh1BcXBnEBvUBcKBszJBeFAcBBLArJBjIAtqGAhpIA"]),
  (["Soft_Dotted", "SD"],
   ["dJBgEAiZA4AbUAUAkAAdCABAgiJAbTANADAeEAe3AnFAgWBczSAdj9FBbSBbSBbSBbSBbSBbSBbSBbSBbSBbSBbSBbS",
    "BceGAjRB0A"]),
  (["Terminal_Punctuation", "Term"],
   ["bBAKABALBDAz4AIAqBAbZAcIAOABCfUAbLKBAhLBbWFBH5AiFBbhUBfMAEFjXByVHyFAd2CcHBe3CDAbHDCBj0BlCDf",
    "CBKBBC3Cf1Eb4B9EAXBJCdfPCjSANAEAKABBDBnMB9h1BiNChDEl4BcWBc5AeXCeTCd5AQBhZAurGACBbZCBDfJAKAB",
    "ALBDAcBACAbb0AbQAbeGAgHAjWBeYFcEFcZD9YEbMDf3GdQDd5CeBBGAQBcYEdMAjKBdVCMBlGDDOdJBhZCqFABAh1B",
    "cXBEBm4CbNAuFBcKBbjLErpZBeFAcBCKArJBjHBtqGAhpHD"]),
  (["Unified_Ideograph", "UIdeo"],
   ["naAgn5cAup5wqOBBABBKABABBCCcboWbjw5bAei3CfuNChjQPtNenCe6KFijJ"]),
  (["Variation_Selector", "VS"],
   ["gaLCBAbzpQP6axQhP"]),
  (["White_Space", "WSpace", "space"],
   ["JESAdEA0Afo5Acl5K3BFAbPAd9AA"])]

def trait (name : String) : CodePoints :=
  match traitTable.find? fun entry => entry.1.head? = some name with
  | some entry => ofLines entry.2
  | none => nothing

/-- Punctuation inside words, which is passed over when words get a capital. -/
def innerPunctuation : CodePoints :=
  ofLines ["bHAGALAd2AwPAoXAeUAgrDBKACAbxpLAb4ACAfRAGALA"]

/-- Characters that decompose into something that starts no name. -/
def startsNoName : CodePoints :=
  ofLines ["70AcvYAd5AipHBbs+BFmWBdUABABABABABABABAi5B"]

/-- Characters that decompose into something that is no part of a name. -/
def isNoNamePart : CodePoints :=
  ofLines ["70AljABbs+BFmWBdUABABABABABABABA"]

def letters : CodePoints := ofCodes ["Lu", "Ll", "Lt", "Lm", "Lo"]
def alphabetic : CodePoints := unions [letters, ofCode "Nl", trait "Other_Alphabetic"]
def lowercase : CodePoints := (ofCode "Ll").union (trait "Other_Lowercase")
def uppercase : CodePoints := (ofCode "Lu").union (trait "Other_Uppercase")
def blanks : CodePoints := trait "White_Space"
def digits : CodePoints := ofCode "Nd"

/-- Letters and numbers of every script. -/
def alphanumeric : CodePoints := alphabetic.union (ofCodes ["Nd", "Nl", "No"])

/-- What words are made of. -/
def words : CodePoints :=
  unions [alphabetic, ofCodes ["Mn", "Mc", "Me", "Nd", "Pc"], trait "Join_Control"]

def graphemeExtend : CodePoints :=
  (ofCodes ["Me", "Mn"]).union (trait "Other_Grapheme_Extend")

def outsideNames : CodePoints := (trait "Pattern_Syntax").union (trait "Pattern_White_Space")

def nameStart : CodePoints :=
  (unions [letters, ofCode "Nl", trait "Other_ID_Start"]).minus outsideNames

def namePart : CodePoints :=
  (unions [nameStart, ofCodes ["Mn", "Mc", "Nd", "Pc"], trait "Other_ID_Continue"]).minus
    outsideNames

/-- Traits that follow from others, each with its names. -/
def derivedTraits : List (List String × (Unit → CodePoints)) := [
  (["Alphabetic", "Alpha"], fun _ => alphabetic),
  (["Case_Ignorable", "CI"], fun _ =>
    (ofCodes ["Mn", "Me", "Cf", "Lm", "Sk"]).union innerPunctuation),
  (["Cased"], fun _ => unions [lowercase, uppercase, ofCode "Lt"]),
  (["Changes_When_Casemapped", "CWCM"], fun _ =>
    unions [trait "Changes_When_Lowercased", trait "Changes_When_Uppercased",
      trait "Changes_When_Titlecased"]),
  (["Grapheme_Base", "Gr_Base"], fun _ =>
    assigned.minus ((ofCodes ["Cc", "Cf", "Co", "Zl", "Zp"]).union graphemeExtend)),
  (["Grapheme_Extend", "Gr_Ext"], fun _ => graphemeExtend),
  (["ID_Continue", "IDC"], fun _ => namePart),
  (["ID_Start", "IDS"], fun _ => nameStart),
  (["Lowercase", "Lower"], fun _ => lowercase),
  (["Math"], fun _ => (ofCode "Sm").union (trait "Other_Math")),
  (["Uppercase", "Upper"], fun _ => uppercase),
  (["XID_Continue", "XIDC"], fun _ => namePart.minus isNoNamePart),
  (["XID_Start", "XIDS"], fun _ => nameStart.minus startsNoName)]

end Asn1Constraints.CodePoints
