import Asn1Constraints.Unicode.CodePoints

/-!
The general category of each character of Unicode 17. What is in no category of
the table is unassigned; surrogates are not characters.
-/

namespace Asn1Constraints.CodePoints

/-- The assigned characters of each general category. -/
def categoryTable : List (String × List String) := [
  ("Lu",
   ["cBZdFWBGbBABABABABABABABABABABABABABABABABABABABABABABABABABABABACABABABABABABABACABABABABA",
    "BABABABABABABABABABABABABABABABABABABBBABADBBABBBCCDBBBCDBBBBABABBBACABBBCBABBDAHACACACABAB",
    "ABABABABABACABABABABABABABABACACABCBABABABABABABABABABABABABABABABABABABABABABABABABABABABA",
    "BAHBBBCABDBABABABAjBABADAIAGABCBABBBQBIbDACCDABABABABABABABABABABABAFACABBCbSbQABABABABABAB",
    "ABABABABABABABABABABAJABABABABABABABABABABABABABABABABABABABABABABABABABABABBBABABABABABACA",
    "BABABABABABABABABABABABABABABABABABABABABABABABABABABABABABABABABABABABABABABABABABABABABAB",
    "ABACbFc6JbFBAFAwScVceTAGbKCCkAABABABABABABABABABABABABABABABABABABABABABABABABABABABABABABA",
    "BABABABABABABABABABABABABABABABABABABABABABABABABABABABABABABABABABABABABABABABABABABABAJAB",
    "ABABABABABABABABABABABABABABABABABABABABABABABABABABABABABABABABABABABABABABABABABABABABABA",
    "BABAJHIFKHIHIFLABABABAIHcIDMDMDMELDiGAEADCCCCADEGABABABDCDKBFAb3Act2bPbQABCCABABABDBACAICBA",
    "BABABABABABABABABABABABABABABABABABABABABABABABABABABABABABABABABABABABABABABABABABABABABAB",
    "ABABAIABAEA+kNABABABABABABABABABABABABABABABABABABABABABABATABABABABABABABABABABABABABAeHAB",
    "ABABABABABADABABABABABABABABABABABABABABABABABABABABABABABABABABABABABABAKABABBBABABABAEABA",
    "CABADABABABABABABABABABABEBEBABABABABABABABDBABBBABABABABABABABAYAvzLZbgFbHeIbDe2KBOBGBBbxK",
    "bSe3Vcz05vmA5cAYzkHZ0Z0Z0ABBCACBCDBH0Z0BBDCHBG1BBDBEBADG1Z0Z0Z0Z0Z0Z4YbBYbBYbBYbBYbBAejVbB"]),
  ("Ll",
   ["dBZb0AbJXBHBABABABABABABABABABABABABABABABABABABABABABABABABABABABBBABABABABABABABBBABABABA",
    "BABABABABABABABABABABABABABABABABABABACABABCCABACADBEACADCCACABABACABBBACADABACBCCGACACABAB",
    "ABABABABABABBBABABABABABABABABBCABADABABABABABABABABABABABABABABABABABABABABABABABABABABABA",
    "BABGCACBBAEABABABABcECZgBABADADCSA1bCBBDCBABABABABABABABABABABABEBACACBbTbPBABABABABABABABA",
    "BABABABABABABABABAJABABABABABABABABABABABABABABABABABABABABABABABABABABACABABABABABABBBABAB",
    "ABABABABABABABABABABABABABABABABABABABABABABABABABABABABABABABABABABABABABABABABABABABABABA",
    "bQbIc6HbKCCxYFceCIBAdVbLb5MBbBdGABABABABABABABABABABABABABABABABABABABABABABABABABABABABABA",
    "BABABABABABABABABABABABABABABABABABABABABABABABABABABABABABABABABABABABABABABABABABABABABIB",
    "ABABABABABABABABABABABABABABABABABABABABABABABABABABABABABABABABABABABABABABABABABABABABABA",
    "BABABIIFKHIHIFKHIHINCHIHIHIEBBGADCBBIDCBIHKCBBiSADBDA1AEAEACBIDEAbVAcvLbPBADBBABABAEABBBFFA",
    "BABABABABABABABABABABABABABABABABABABABABABABABABABABABABABABABABABABABABABABABABABABABABAB",
    "ABABABBHABAEAMbFBAFA+iTABABABABABABABABABABABABABABABABABABABABABABATABABABABABABABABABABAB",
    "ABABAeHABABABABABABCBABABABABABABABABABABABABABABABABABABABABABABABABABABABABABABABHBABACAB",
    "ABABABAEABACABCBABABABABABABABABABAFAFABABABABABABABAEABACABABABABABABABA0ADAzVbKFIHcPt6AGM",
    "EbbJZbgNbHeIbDe1KBOBGBBbyDbSd3Vcz05vmA5b1YzkGZ0GBR0Z0DBABGBK0Z0Z0Z0Z0Z0Z0Z0Z012YBF0YBF0YBF0",
    "YBF0YBFBAbzUJBTGFcpXbB"]),
  ("Lt",
   ["oFACACAbGAhmVHIHIHMAPAbPA"]),
  ("Lm",
   ["vQRELOEHABAeFAFAo4AhGAfEBiNBEA5AJADAfAAfHAbgUAd5ArVAbw0AdLAtDAoQFfOb4NAbCbEvRANAQMc+5BhRAf5",
    "AoVAbLEFAdBBc3C7yWAbhCFiOAdSA2BdZIcQAXAdIDDBoVAWAeJAdMAVBdHDJAvaGAbNBb-AFBbJBIbmTAbAAkVAdyT",
    "AtlGDp2CbIBrGMcABBAOBp-2DBGBBmbRb3gJG9NAqTAsLA"]),
  ("Lo",
   ["fKAPAiAAEDgQBz00EDbN5BJbDBBdCBAYBKCCAQAB33cYLAYbAVVbKYHKFXBGQbIb1bVDASAHJQOEHCBCVBGBADDDAQA",
    "NBBCOBKAIFEBCVBGBBBBBB5DBATCQIBCBVBGBBBEDASAPBXALHCBCVBGBBBEDA4BBCPARABFDCBDDBBABBDBDCDLWAb",
    "UHBCBWBPDA0CBBCB4AEHBCBWBJBEDA4CBBPBRIBCBbICAQAFCICYFFRDXBIBACGb0bPBBMFb1BBABEBXBABJBBJACEX",
    "DbAAb5HBbD1EdTbKUAQFEDDADBHCEMMAdRkIBDCGBABDCbIBDCbABDCGBABDCOBbYBDCcCbFPdRtLCQBZFcKGHHRNSO",
    "ROMBCPbTbIAcDbCBbUHECbBBAFcFK4bR3CELbLEZbWWJbUfQbORHbW3NBKbL0bDbJCK3dRDBFBBDAbb0Dc-XbXYWJGB",
    "GBGBGBGBGBGBGrHAbVAEcVIABcZEAFbKBc3R5bQPqAgn5cAuqUBbdWcDbHIiLEPKBcCAbRcFfJAdHADGBCBDBW3bTOb",
    "Rb4FDABBL1KWZ2HbObNECIKEBbIXCBHUPBFDADbRBADBCECABAYBDKHAOFCFCFJGBGeRbC3k9DMWEbQiiElNCdJcDAB",
    "JBMBEBABBBBBdLbBlKSb5CbVbILdUEBeGdJJBbMC4DFCFCFCCbDLBZBSBBBOCNbCd0mF2DbQbP5NTBHGbFK3CbDEHeA",
    "cNdCbHIbTc2bTMjWJVKHeYFCABbLBBDACWKWJ4cBSBBKVKZGZbGbXGBcAAPDBCB2bK2D2bDHB11bVKVKSNRdOcIfXbD",
    "bGDBAjQbJGBQCBBbY2KAIVbKRbOU1WMbUbZBCANbMbAY0bD3ACAIbCDAMbPODVABAbDRBYTBb5GBABDBOBJHbObGHCB",
    "CVBGBBBEDASAME4JBACABbFBAZABAbMbUSDUC4bPUBBAfYbObJDbEbPUAb1bKNAcH0bFGfZbLgTHCACHBBBXPABAc4H",
    "CbGQABA2AKbHHAVALbNTAScIgHbA5IBbERAbR3dQGBBBbFVAZFBBB5OAXbIBBiESPABMBbBd2AcP8ZhGgDcsMdAPbbP",
    "RFZd80FsGgvZ3bxCrYH4RcOR3SbPbTUFSnTbHmVcKFAfPhgVbJ5dBdSiqNjCPA3CCAODImLciEdKFMDIHJitQApVbMb",
    "BAkB3SbLpE0hF3CAgP4BCBBBGCEJAhBGBDBBBOBgEbj1DB0BBBACABJBDBABAGAEABABABCBBBACABABABABABBBACD",
    "BGBDBDBABJBQFCBEBQekEbjw5bAei3CfuNChjQPtNcnCq3bpCe6KFijJ"]),
  ("Mn",
   ["yAdPiTEiJbMBABBBBBAcIKbQUQAdFGCFCBBDbDA40c1Kb0IJAYDBIBCBEbLCb1IbKXB5bXABAEHEADGKB3Ab0AEDIAU",
    "B0ACBbZAEBEBCCDA4BDALBbZAEEBBEAUBWFBAb0ACABDIAHBLB4Ab3AMAbSADAbXABCFCBDHBLB3Ab0ACAGAFBUB2Bb",
    "ZBEDIAUB3AcIAHCBAc0ACGMHdCACILGcJB1ABABAbXNBEBBFKBbDJAdGDBFBBCBZBECQDNACBGAPAv5C9SC3B4B4BcA",
    "BBGIACKJAbNCBAdVBbCAdWCEBJAGCg1BCAb0ABGBABACHGJCAbQNB4CLUDbQABEBAFAbIIMBbADCBBCbYABBDABCb0H",
    "CBeYCBMBGEAGADBgGb5wQMEADLc-4CeNAdA5rKDdLB9oUAEJbABcQBiQADAEAZBFAeXB0RNAbGHZKbOCbQACDCBbHAc",
    "DFCBCBMAIAbPAbTABCCBFBBAbKBIAhOACAEAtzQAxBPQP+NAhCAeVEbuGCBBFDbICEAfFBr3DcBEj3BcNFcGKbRDd1A",
    "bWObJACBKCbRDCBHAb3CbEEBHb4AMBbUIKDCAc5CCABBGACAe3ADHVBbZBDAbFGDEcGFNABABAOBcVHCCBAXAcUFBAE",
    "BBBhODGBBB1BcVHCABBdKABACFBAdFABACDBEiDIBBiABBAEAeQDCBEAbAJbIFCDIAJFCCbOMBBgGABCBAgJGBFBAcS",
    "VCGBBBBd0FDABBBGBAcIBDABAk1BLBbUEFABAXAfhFAGOlgILDCcoAEb1GbaYAb5DcRAtfYBetBbNCWrACRHCG4DeUC",
    "b91bWEbRIAOAWEBObkQGBQCGBBBEdEAfAGlXAb3Dp2Dh4BhTACAHBFAo0GdNGyf9VhP"]),
  ("Mc",
   ["ciDAbXACCIDBBbSBb0CGBCBKAbLAb0CcCAb0CIABBbVBb0ABAGBCBKAdGBBBDCBCKAbJCb3Db3Bb0ABECBBBJB2AOBb",
    "0CFCBCKAbKBcLCGHSBkKBb5AfLBEAGACBZBKCCGVBCFCAKCbtYA4AeBAHHBBk0DCCEBBFhABb0ABAJABBIFeRAbQAFA",
    "BEBBb3A4AEBCAb2ACCBADBbQHIBfLAVAezWB9-TBCAcYBbSPeOBbPAbQBEBCCdOBCBYAbNABAdNACBFAhNBBBBBBAza",
    "TABAd5AbNCEBdTAYBb1AbQCJBNAc3CDBBAfKC5Bb0BBDCBCCJAKBcUCHACABDBBBAdFCIBDAdKCGABDCAhNCGDCAdRC",
    "IBBAdNABBGAdHABBEAiFCJAhXFBBEACABAeOCIDEAcUA3Bb4AgJADABAgHAOAdKAHACAgVEEBBAk4BMAbQBIBBAqpIC",
    "drEbWdIBylTBGF"]),
  ("Me",
   ["beIBfrUAbq4DBCbbmLC"]),
  ("Nd",
   ["bQJbrGJeGJgGJm2JdWJdWJdWJdWJdWJdWJdWJdWJdWJdAJdWJcGJiWJcGJb6GJbGJjMJeAJfGJGJfWJcWJeGJGJbcoG",
    "JvGJbGJgGJWJcWJmWJuyWJbmGJceGJGJy2JeAJb2JeQJiWJkWJdWJlWJdGJGTcMJnGJdGJuWJcWJhWJcGJbWJlGJqoW",
    "JcjGJcWJeGJqWJx7WJcwUbRckAJnGJpWJhXJ6VJeuWJ"]),
  ("Nl",
   ["fxOCctPbCCDdt4AZIOC9vLJwsQbUoMAIAeGEibKdOs8FC"]),
  ("No",
   ["fSBFACCcjVFlYFdYCeFGgZGRInRJbbVTbdTJpAAbuVADFGJgGPbJAwWb1cOVtW3blJAbeUDeKJ4HBObAJbHO9lQFwgR",
    "bMcBDRBkV0bEDbjUHZGbHIcLEWFfABCPCbNcAIbUB4CcLEdIHYHbJGkKFlA4e4JbKDdQGeGTl1TbkFBnOI7HS6TUs8G",
    "Gy4WzbJTMTdMYfkOI9Bb0BCBDcMbMBO+CM"]),
  ("Pc",
   ["c5Ah+5BTAbxo4BYChPA"]),
  ("Pd",
   ["bNAbk2AbTAdsBAbaFAcaJFdqBACA5BEA2An4ATAdPAbtmQBbFAKAfJAdtAAj4A"]),
  ("Ps",
   ["bIAbSA5Adv4ABAb64Acl4ADAbGAbXAPAt0ABA4Abb4ABABABABABABAcQAbAABABABABAmUABABABABABABABABABAB",
    "AcAABAbBAbbFABABABAZASABABABAnMABABABABADABABABACAbtjBAgXA3ABABABABABABABADARABABAfKAbSA5AD",
    "ACA"]),
  ("Pe",
   ["bJAbTA5Adv3ABAb64AcnJAbXAPAt0ABA4Abb4ABABABABABABAcQAbAABABABABAmUABABABABABABABABABABAcAAB",
    "AbBAbbFABABABAbMABABABAnMABABABABADABABABACBbti4AgZA3ABABABABABABABADARABABAfKAbTA5ACACA"]),
  ("Pi",
   ["fLAh7MACBCAZAdoIABAEACAPADA"]),
  ("Pf",
   ["f1Ah63ADA2AdoIABAEACAPADA"]),
  ("Po",
   ["bBCBCCABABBKBDB1AcEAFAOBHAv4AIAoSFbJAbWACACAbMBUBBBNABCcKDdGAbLNhJCbWO5AiFBKAeMAdYAdZAmGAMA",
    "lPAc0AKBfIOBAdQAcKEEBdPFfLAtEIyFAd2CcHBe3CBCbFFBDjZBgYBeAGBFfABKG2Cd2Db1Eb4BcAHLA6CBIHIICDC",
    "CDKBABJde0DBBdQAePBECCACIBBBACBKEBJCDBABMCCnMCbZAf3A9aCBiNCdDAKAdTFl2DcWBbICBAbRBbPAdBMQBd2",
    "Dd4BQBhZAurEGCAWAUBCDDCBDHCGABBeVCBCCABABBKBDB1AbEACBm0Cu2AbQAm4AxHAgHA5AiQIbGAdQGcCGcZDzTA",
    "eEEbMDf3GdNBBDd4DbQBcPDEANABCcYFdLAjKBBBdSEKBBAdIAh0WdJC2McMAeCCh2AiICe1Ac2HcTCBEc3JgXAc5Eb",
    "KBuFBcKMfPAbdQEc72Bot1BeFAcBEIArICjHDkHAtf2AhpHEc7TA64B"]),
  ("Sm",
   ["bLAQCb3ABAbNAEAbFA5Ax4AqPCgr1ANAbHCNCeLAbHEGAcEEFBEACACAHA5BCABA5iLbABc0A4YbIFoVAJAbWHdPAkQ",
    "EC4KPiAeCWb4E5CiBbQUCFbt+2AzYABCfEAQCb3ABAeDAGDdnBBbqlAAb+QAZA5AZA5AZA5AZA5AZAfzMBco4I"]),
  ("Sc",
   ["bEAd3DbhJAd1ApSBpSBHAhVAiHAsFAcm1AcgEbBbb7WAvoDAdMAe0Ag1BDBh-WDbqy4AcnQA"]),
  ("Sk",
   ["c4ABAcHAGAEADAqJDMNFGBABQdVAOBbiCAfzUABCLCNCNCNBee2B9tDWJBdHB+QAOBucGQ71ABAfCAb9aXE"]),
  ("So",
   ["fGACAEABA+RAiKBd5BgOAKATBhXAqDAlVAeCFBAeEAgPAbJAmHCPABCCFUABABAeFHBFBBFDgFBxQJwTAwSAe3bBlBJ",
    "JIbmDBBDBBKABBGFBABABAEALBOABBBAb0BJECDBBBBBGB4CBBAB4iMHETCGCcQB3ZbHGcHWKcRcNWfWBIBbVIdOBhX",
    "bMbLcAh5qAbPVBGbGCeJhFFlFBbOZBcYMgV0PEANBMAVBGBkQBEJbAbFJAQ4L3IAP5KbGPj5goAb5vuQbW7BDKBBAr3",
    "CukJPlNPcABbWHbNCpEADAEBNBjZIbZQCCBMDAbPbMbt0BsPAbaIHcdGAceVHEQs6KDFAukWAd7DhPKCDnTGWPPdAdT",
    "b2hVKbGCb1FCWBH3Eb2VcBDAf0cWbfJp5bXDbSHBNBBbwIAc62AeBAwRbLEdDMOCOBOBbEXfAbY2NbLEIHBOFe0h0Fw",
    "YDQDMDgZGLEAPLEbXIJGbHI3CLEBb4kXINCMDKDbYBAEPCLEJHeSBc1KA"]),
  ("Zs",
   ["bAAd5Afo5Acl5KbEAbPAd9AA"]),
  ("Zl",
   ["ibIA"]),
  ("Zp",
   ["ibJA"]),
  ("Cc",
   ["A5c5bA"]),
  ("Cf",
   ["fNAbkSFWAgAAbRAmABcQAdzLAb-2E0EbREBJbxuPAhZCegBAPAi7CPbcdADfgPHyluGA4c5"]),
  ("Co",
   ["byaAgh58byAb--3Cb--3"])]

/-- The characters of a category, by its two-letter code. -/
def ofCode (code : String) : CodePoints := ofLines ((categoryTable.lookup code).getD [])

def assigned : CodePoints := unions (categoryTable.map fun entry => ofLines entry.2)

def ofCodes (codes : List String) : CodePoints :=
  unions (codes.map fun code => if code = "Cn" then assigned.other else ofCode code)

/-- Each category with its names, and the codes of what it is made of. -/
def categoryNames : List (List String × List String) := [
  (["C", "Other"], ["Cc", "Cf", "Cn", "Co"]),
  (["Cc", "Control", "Cntrl"], ["Cc"]),
  (["Cf", "Format"], ["Cf"]),
  (["Cn", "Unassigned"], ["Cn"]),
  (["Co", "Private_Use"], ["Co"]),
  (["L", "Letter"], ["Lu", "Ll", "Lt", "Lm", "Lo"]),
  (["LC", "Cased_Letter"], ["Lu", "Ll", "Lt"]),
  (["Ll", "Lowercase_Letter"], ["Ll"]),
  (["Lm", "Modifier_Letter"], ["Lm"]),
  (["Lo", "Other_Letter"], ["Lo"]),
  (["Lt", "Titlecase_Letter"], ["Lt"]),
  (["Lu", "Uppercase_Letter"], ["Lu"]),
  (["M", "Mark", "Combining_Mark"], ["Mn", "Mc", "Me"]),
  (["Mc", "Spacing_Mark"], ["Mc"]),
  (["Me", "Enclosing_Mark"], ["Me"]),
  (["Mn", "Nonspacing_Mark"], ["Mn"]),
  (["N", "Number"], ["Nd", "Nl", "No"]),
  (["Nd", "Decimal_Number", "Digit"], ["Nd"]),
  (["Nl", "Letter_Number"], ["Nl"]),
  (["No", "Other_Number"], ["No"]),
  (["P", "Punctuation", "Punct"], ["Pc", "Pd", "Ps", "Pe", "Pi", "Pf", "Po"]),
  (["Pc", "Connector_Punctuation"], ["Pc"]),
  (["Pd", "Dash_Punctuation"], ["Pd"]),
  (["Pe", "Close_Punctuation"], ["Pe"]),
  (["Pf", "Final_Punctuation"], ["Pf"]),
  (["Pi", "Initial_Punctuation"], ["Pi"]),
  (["Po", "Other_Punctuation"], ["Po"]),
  (["Ps", "Open_Punctuation"], ["Ps"]),
  (["S", "Symbol"], ["Sm", "Sc", "Sk", "So"]),
  (["Sc", "Currency_Symbol"], ["Sc"]),
  (["Sk", "Modifier_Symbol"], ["Sk"]),
  (["Sm", "Math_Symbol"], ["Sm"]),
  (["So", "Other_Symbol"], ["So"]),
  (["Z", "Separator"], ["Zs", "Zl", "Zp"]),
  (["Zl", "Line_Separator"], ["Zl"]),
  (["Zp", "Paragraph_Separator"], ["Zp"]),
  (["Zs", "Space_Separator"], ["Zs"])]

end Asn1Constraints.CodePoints
