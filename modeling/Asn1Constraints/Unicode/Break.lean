import Asn1Constraints.Unicode.CodePoints

/-!
What each character is where text is cut into characters, words and sentences.
Characters of the kind that means nothing for a cut are not listed.
-/

namespace Asn1Constraints.CodePoints

/-- Kinds of characters where what a reader takes for one character ends. -/
def graphemeTable : List (List String × List String) := [
  (["CR"],
   ["NA"]),
  (["Control", "CN"],
   ["AJBBBRc5bANAblOAepRAb-2ACBYGbRPbxuPAhQLnbUPbcdADfgPHyluF5dAd5hQdqP"]),
  (["Extend", "EX"],
   ["yAdPiTGiHbMBABBBBBAcIKbQUQAdFGCFCBBDbDA40c1Kb0IJAYDBIBCBEbLCb1IbKXB5bXABAEHEADGKB3Ab0ABACDI",
    "AJAKB0ACBbZAEBEBCCDA4BDALBbZAEEBBEAUBWFBAb0ABBBDIAHCKB4Ab1ABAMAJAbIADAbXABCFCBDHBLB3Ab0ACAC",
    "ADAFBHBLB2BbZBBACDIAJAKB3AcIAEACCBAIAcRACGMHdCACILGcJB1ABABAbXNBEBBFKBbDJAdGDBFBBCBZBECQDNA",
    "CBGAPAv5C9SC3B4B4BcABBGIACKJAbNCBAdVBbCAdWCEBJAGCg1BCAb0ABGBABACHGJCAbQbNCLUDbQGBAFAbIIMBbA",
    "DCBBCbYABBDABCb0HCBeYCBMBGEAGADBgGb5qMAgDbAc-4CeNAdA5rKFdJB9oUDBJbABcQBiQADAEAZBFAeXB0RNAbG",
    "HZKbOCbQACDCBbHAcDFCBCBMAIAbPAbTABCCBFBBAbKBIAhOACAEAtzQAxBPQPlOBs3AhCAeVEbuGCBBFDbICEAfFBr",
    "3DcBEj3BcNFcGKbRDd1AbWObJACBKCbRDCBHAb3CbEEBHb4AMBbUIKDCAc5CCABBGACAe3ADHVBbZBBABAWAOGDEcDA",
    "CFBACABCECBAOBcVHCCBAXAcRACFBACABBBBhLACDGBBB1BcVHCABBdKABACFBAdFCCDBEiDIBBhVAKBBAEAeQDCBEA",
    "bAJbIFCDIAJFCCbOMBBgGABCBAgJGBFBAcSVCGBBBBd0FDABBBGBAcIBDABAk1BLBbUEFABAXAfhFAGOlgILDCcoAEb",
    "1GbaYAb5DcRAtfYBetBbNCWq4ABCEEIHCG4DeUCb91bWEbRIAOAWEBObkQGBQCGBBBEdEAfAGlXAb3Dp2Dh4BhTACAH",
    "BFAo0GdNGcvQEydbAc5eAhP"]),
  (["L"],
   ["eiAc5bgaA2"]),
  (["LF"],
   ["KA"]),
  (["Prepend", "PP"],
   ["bqAFgXAbRAmABcQAbdLAca7OAPAhUBqNAblNABAhYAcJFv2An1A"]),
  (["Regional_Indicator", "RI"],
   ["d8pGZ"]),
  (["SpacingMark", "SM"],
   ["ciDAbXACCIDBBbSBb1BGBCBbWAb0CcCAb0CIABBbVBb2AGBCBdSABBDCBCbUCb3Db3Bb0ABBBBCBBBbHAOBb1BFCBCb",
    "VBcMBGGTBb5Ad5AeKBb5AfRAJBZBbMAbuQA4AeBAHHBBk0DCCEBBFhABb0ABAVFeRAbWABEBBb3A4AEBCAb2ACCBADB",
    "bQHIBfLAVAbczLBCAcYBbSPeOBbPAbQBEBCCdOBCBYAe3ACBFAhNBBBBBBAzaTABAd5AbNCEBdTAYBb1AbQCJBNAc3C",
    "DBBAfKC5Bb1ABDCBCCUBcVBPABBdHCIBDAdLBGABBBACAhOBGDCAdRCIBBAdNABBGAdPAiFCJAhYEBBEACABAeOCIDE",
    "AcUA3Bb4AgJADABAgHAOAdKAHACAgVEEBBAk4BMAbQBIBBAqpICdrEbWdIBylUAGA"]),
  (["T"],
   ["enIcXbroLbQ"]),
  (["V"],
   ["elAcHbrqIWbfm2ADD"]),
  (["ZWJ"],
   ["iaNA"])]

/-- Syllables of two jamos, in order between the syllables of three. -/
def twoJamos : CodePoints :=
  ofRuns ((List.range 399).map fun index => (0xac00 + index * 28, 0xac00 + index * 28))

def threeJamos : CodePoints := (range 0xac00 0xd7a3).minus twoJamos

/-- Kinds of characters where words end. -/
def wordTable : List (List String × List String) := [
  (["ALetter", "LE"],
   ["cBZGZbPAKAEAFWB4Bo5GbBdQEBBCDBAGABCBABTBcSBeKIfFBbFCDBABbIBAdIAbMbKbDBBdCBAPBHBKCCAQAB33cYL",
    "AYbAJBEAFVEAJADAXYHKFXBGQbJb0bVDASAHJPPEHCBCVBGBADDDAQANBBCOBKAIFEBCVBGBBBBBB5DBATCQIBCBVBG",
    "BBBEDASAPBXALHCBCVBGBBBEDA4BBCPARABFDCBDDBBABBDBDCDLWAbUHBCBWBPDA0CBBCB4AEHBCBWBJBEDA4CBBPB",
    "RIBCBbICAQAFCICYFFRDXBIBACGjZAb5HBbD1EiTbFBAFACbKBkMBDCGBABDCbIBDCbABDCGBABDCOBbYBDCcCbFPQc",
    "VCFDtLCQBZFcKDKHRNSOROMBCfPcYHECbBBAFcFK4hBWhObORHbW3NBKbL0bDbJCKbDCKFbKCCbJDBFBBDAFf5cAiVC",
    "FCbFCFCHBABABAB4CbUBGBADCBGDDCFEMFCBGdUANAQMdFAEACJBADEGABABABDBKCDFEEARbIzNbTbyWhEGDDBMbFB",
    "AFACbXHAQWJGBGBGBGBGBGBGBGcQAoVAbVBgIbKBc3R57sAbeMcDbNCiMDPKBUbOQ4CcPYgUUQBCBDBW3bTObRb4FDA",
    "BBL1KWZ2HbO2AbQbIXCBHeUKHCMFCFCFJGBGBbZGdS3k9DMWEbQiyEGMEbYdBbBlKSb5CbVbILdUEBeGbEZGZcF4DFC",
    "FCFCCbDLBZBSBBBOCNbCd0cFbUiL2DbQbP5N3FbFK3CbDEHBEbKe3SbDEbDEbHIbTMKBOBGBBBKBOBGBBDbTMjWJVKH",
    "YFBbJBIcFFCABbLBBDACWKWJ4cBSBBKVKZGZbGbXGBcAAPDBCB2bK2D2bDHB11bVKVKSNRdOcIbXbSNbSNbDbG1JWh0",
    "bJGBQFbY2KAIVbKRbOU1WMbUbZBCANbMbAY0bD3ACAIbCDAMbPODVABAbDRBYTBb5GBABDBOBJHbObGHCBCVBGBBBED",
    "ASAME4JBACABbFBAZABAbMbUSDUC4bPUBBAfYbObJDbEbPUAb1bKNAkHbLdUb55HCACHBBBXPABAc4HCbGQABA2AKbH",
    "HAVALbNTAScIgHbA5IBbERAbR3dQGBBBbFVAZFBBB5OAXbLiESPABMBbBd2AcP8ZdGdORgDcsMdAPbbPRFZd80FsGgv",
    "Z3bxCrYH4RcOR3SbPQD5UFSnQbMgTb5bAYCYbMcKFAcCMcABBAta2dKFMDIHJf7GcUBcGBBCACBCDBLBABGBcABDCHB",
    "GB1BDBEBADGBkTCYBYB4BYB4BYB4BYB4BYBHbzU4GFiFb3eSbMKGQAkB3SbLpE1hE3CAgP4BCBBBGCEJBhAGBDBBBOB",
    "gEb1cDHAbfUDB0BBBACABJBDBABAGAEABABABCBBBACABABABABABBBACDBGBDBDBABJBQFCBEBQtUZGZGZ"]),
  (["CR"],
   ["NA"]),
  (["Double_Quote", "DQ"],
   ["bCA"]),
  (["Extend"],
   ["yAdPiTGiHbMBABBBBBAcIKbQUQAdFGCFCBBDbDA40c1Kb0IJAYDBIBCBEbLCb1IbKXBbAbWCBRBGKB3CbYABGCBCCJA",
    "KB0ACCbYABEEBCCDA4BDALCbYABHBCBCUBWFBCbYABGCBCCHCKB4Ab1EDCBDJAbIEbXABGBCBDHBLB3CbYABGBCBDHB",
    "LBPAMDbXBBGBCBDJAKB3CcGAEFBABHSBb3ACGMHdCACILGcJB1ABABAEBbRTBBFKBbDJAdETXDECBCCGDDNLBAKDv5C",
    "9SD2C3B4BcA5JAbNCBAdVBbCAdWLELg1EbZJB2CAbQbNCLUEbPQbGIMC4MbYNbQTeYCBUEAGACCgGb5qMAgDbAc-4Ce",
    "NAdA5rKFdJB9oUDBJbABcQBiQADAEAXEEAcTBbSR0RNAbGHZMbMDbPNbEAcDNMAIBbNCbSABCCBFBBAbJEFBhMHBBtz",
    "QAxBPQPlOBs3AhCAeVEbuGCBBFDbICEAfFBr3DcBEj3BcNFcGKbRDd0CbVObJACBKDbNKHAb3CbENQBbMAMCbQNIDBB",
    "c2LGACAe3LVDbXBBGCBCCJAKBCGDEcDIBACABDBEBAOBcSRXAcRThLGCI1BcSQdKMdFOiAOhVFBBCDBABBeNGCGDA2J",
    "bIGBDIAJKbOPgGHgHHBHcSVBNd0FDABBBGBAcCEBBBEk1DJBBAbQGDEXAfhFAGOlgIRcoAEb1GbaYABbWHDcRALBtfL",
    "BetBbNCWq4EDFIHCG4DeUCb91bWEbRIAOAWEBObkQGBQCGBBBEdEAfAGlXAb3Dp2Dh4BhTACAHBFAo0GdNGcvQEydbA",
    "c5eAhP"]),
  (["ExtendNumLet", "EX"],
   ["c5Ah+PAPBTAbxo4BYChPA"]),
  (["Format", "FO"],
   ["fNAbkSFWAgAAbRAmABcQAdzLAb-5B0EbREBJbxuPAhZCegBAPAi7CPbcdADfgPHyluGA"]),
  (["Hebrew_Letter", "HL"],
   ["boQ0EDb9jKABJBMBEBABBBBBJ"]),
  (["Katakana", "KA"],
   ["mbREdFBDc0BDhQPgQbOBcXbtaObXbmcSDBGBBBAi5CbSAOD"]),
  (["LF"],
   ["KA"]),
  (["MidLetter", "ML"],
   ["b0Ad2AwPAoXAeUAgrSAbxpLAcBAgEA"]),
  (["MidNum", "MN"],
   ["bMAOA6CAqKAeCBc4AmLAgcLAbxoLADAb1ADAfXAOA"]),
  (["MidNumLet", "MB"],
   ["bOAh-JBKAbxrNAfUAGA"]),
  (["Newline", "NL"],
   ["LBdYAh9CB"]),
  (["Numeric", "NU"],
   ["bQJbrGJBAeEJgGJm2JdWJdWJdWJdWJdWJdWJdWJdWJdWJdAJdWJcGJiWJcGJb6GJbGJjMJeAJfGJGJfWJcWJeGJGJbc",
    "oGJvGJbGJgGJWJcWJmWJuyWJbmGJceGJGJy2JeAJb2JeQJiWJkWJdWJlWJdGJGTcMJnGJdGJuWJcWJhWJcGJbWJlGJq",
    "oWJcjGJcWJeGJqWJx7WJcwUbRckAJnGJpWJhXJ6VJeuWJ"]),
  (["Regional_Indicator", "RI"],
   ["d8pGZ"]),
  (["Single_Quote", "SQ"],
   ["bHA"]),
  (["WSegSpace"],
   ["bAAfs5Acl5GBCcUAd9AA"]),
  (["ZWJ"],
   ["iaNA"])]

/-- Kinds of characters where sentences end. -/
def sentenceTable : List (List String × List String) := [
  (["ATerm", "AT"],
   ["bOAh-VAbxrNAf1A"]),
  (["CR"],
   ["NA"]),
  (["Close", "CL"],
   ["bCAECbRABA3ABAbNAPAdt4Db63Bcl1HZBKBbWBOBtZD3BbbQFHNcPB5JmTVb5DbABbaCNOBCJYASHnLJCHBCbti4BgX",
    "B2PCBQFfJBbRABA3ABABBBBb9ySC"]),
  (["Extend", "EX"],
   ["yAdPiTGiHbMBABBBBBAcIKbQUQAdFGCFCBBDbDA40c1Kb0IJAYDBIBCBEbLCb1IbKXBbAbWCBRBGKB3CbYABGCBCCJA",
    "KB0ACCbYABEEBCCDA4BDALCbYABHBCBCUBWFBCbYABGCBCCHCKB4Ab1EDCBDJAbIEbXABGBCBDHBLB3CbYABGBCBDHB",
    "LBPAMDbXBBGBCBDJAKB3CcGAEFBABHSBb3ACGMHdCACILGcJB1ABABAEBbRTBBFKBbDJAdETXDECBCCGDDNLBAKDv5C",
    "9SD2C3B4BcA5JAbNCBAdVBbCAdWLELg1EbZJB2CAbQbNCLUEbPQbGIMC4MbYNbQTeYCBUEAGACCgGb5qMBgCbAc-4Ce",
    "NAdA5rKFdJB9oUDBJbABcQBiQADAEAXEEAcTBbSR0RNAbGHZMbMDbPNbEAcDNMAIBbNCbSABCCBFBBAbJEFBhMHBBtz",
    "QAxBPQPlOBs3AhCAeVEbuGCBBFDbICEAfFBr3DcBEj3BcNFcGKbRDd0CbVObJACBKDbNKHAb3CbENQBbMAMCbQNIDBB",
    "c2LGACAe3LVDbXBBGCBCCJAKBCGDEcDIBACABDBEBAOBcSRXAcRThLGCI1BcSQdKMdFOiAOhVFBBCDBABBeNGCGDA2J",
    "bIGBDIAJKbOPgGHgHHBHcSVBNd0FDABBBGBAcCEBBBEk1DJBBAbQGDEXAfhFAGOlgIRcoAEb1GbaYABbWHDcRALBtfL",
    "BetBbNCWq4EDFIHCG4DeUCb91bWEbRIAOAWEBObkQGBQCGBBBEdEAfAGlXAb3Dp2Dh4BhTACAHBFAo0GdNGyfwVc5eA",
    "hP"]),
  (["Format", "FO"],
   ["fNAbkSFWAgAAbRAmABcQAdzLAb-2ACB0EbREBJbxuPAhZCegBAPAi7CPbcdADfgPHyluGA"]),
  (["LF"],
   ["KA"]),
  (["Lower", "LO"],
   ["dBZbPAKAEAbEXBHBABABABABABABABABABABABABABABABABABABABABABABABABABABABBBABABABABABABABBBABA",
    "BABABABABABABABABABABABABABABABABABABABABACABABCCABACADBEACADCCACABABACABBBACADABACBCCGACAC",
    "ABABABABABABABABBBABABABABABABABABBCABADABABABABABABABABABABABABABABABABABABABABABABABABABA",
    "BABABABGCACBBAEABABABABcEBbDHB4EeMABADACDSA1bCBBDCBABABABABABABABABABABABEBACACBbTbPBABABAB",
    "ABABABABABABABABABABABABABAJABABABABABABABABABABABABABABABABABABABABABABABABABABACABABABABA",
    "BABBBABABABABABABABABABABABABABABABABABABABABABABABABABABABABABABABABABABABABABABABABABABAB",
    "ABABABABAbQbIc7TAx1FceCIBAdVf5cBABABABABABABABABABABABABABABABABABABABABABABABABABABABABABA",
    "BABABABABABABABABABABABABABABABABABABABABABABABABABABABABABABABABABABABABABABABABABABABABIB",
    "ABABABABABABABABABABABABABABABABABABABABABABABABABABABABABABABABABABABABABABABABABABABABABA",
    "BABABIIFKHIHIFKHIHINCHIHIHIEBBGADCBBIDCBIHKCBBdZANAQMdNADBDA1AEAEACBIDEAbBPEA6LZb6GbPBADBBA",
    "BABAEABBBHDABABABABABABABABABABABABABABABABABABABABABABABABABABABABABABABABABABABABABABABAB",
    "ABABABABABABABABABBHABAEAMbFBAFA+iTABABABABABABABABABABABABABABABABABABABABABABATABABABABAB",
    "ABABABABABABABABCeFABABABABABABCBABABABABABABABABABABABABABABABABABABABABABABABABABABABABAB",
    "ABJBABACABABABABAEABACABCBABABABABABABABABABAFAFABABABABABABABAEABACABABABABABABABAVDBABCzV",
    "bKBNGcPt6AGMEbbJZbgNbHeIbDe1KBOBGBBoDACCBbJBIbiFbSd3Vcz05vmA5b1YzkGZ0GBR0Z0DBABGBK0Z0Z0Z0Z0",
    "Z0Z0Z0Z012YBF0YBF0YBF0YBF0YBFBAbzUJBTGFiFb3cfUbB"]),
  (["Numeric", "NU"],
   ["bQJbrGJBBeDJgGJm2JdWJdWJdWJdWJdWJdWJdWJdWJdWJdAJdWJcGJiWJcGJb6GJbGJjMJeAJfGJGJfWJcWJeGJGJbc",
    "oGJvGJbGJgGJWJcWJmWJuyWJbmGJceGJGJy2JeAJb2JeQJiWJkWJdWJlWJdGJGTcMJnGJdGJuWJcWJhWJcGJbWJlGJq",
    "oWJcjGJcWJeGJqWJx7WJcwUbRckAJnGJpWJhXJ6VJeuWJ"]),
  (["OLetter", "LE"],
   ["n1AEDgQAbEGGL0ABAeFApEAdW0EEbMbKbDBBdCBAPBHBKCCAQAB33cYLAYbAJBEAFVEAJADAXYHKFXBGQbJb0bVDASA",
    "HJPPEHCBCVBGBADDDAQANBBCOBKAIFEBCVBGBBBBBB5DBATCQIBCBVBGBBBEDASAPBXALHCBCVBGBBBEDA4BBCPARAB",
    "FDCBDDBBABBDBDCDLWAbUHBCBWBPDA0CBBCB4AEHBCBWBJBEDA4CBBPBRIBCBbICAQAFCICYFFRDXBIBACGb0bPBBMG",
    "b0BBABEBXBABJBBJACEBAVDbAAb5HBbD1EdTbKUAQFEDDADBHCEMMAcBbKCkLBDCGBABDCbIBDCbABDCGBABDCOBbYB",
    "DCcCbFPdRtLCQBZFcKDKHRNSOROMBCPbTbDAEAcDcYHECbBBAFcFK4bR3CELbLEZbWWJbUcSAc3bORHbW3NBKbL0bDb",
    "JCKbDSbKCCbJDBFBBDAbb0DcHCCDc9HbXHAQWJGBGBGBGBGBGBGBGcQAoVCZIHECEEcVGCBcZBDFbKBc3R5bQPqAgn5",
    "cAvuMcDbNCiMDPKBcCAQAbAcPbHIdIAGAdHADGBCBDBW3bTObRb4FDABBL1KWZ2HbO2AQEBJKEBbIXCBHUWDADbRBAD",
    "BCECABAYCCKHCMFCFCFJGBGeRbC3k9DMWEbQiiElNCdJcDABJBMBEBABBBBBdLbBlKSb5CbVbILdUEBeGdJbXC4DFCF",
    "CFCCbDLBZBSBBBOCNbCd0cFbUiL2DbQbP5N3FbFK3CbDEHBEd0cNdCbHIbTc2bTMjWJVKHZBd3FCABbLBBDACWKWJ4c",
    "BSBBKVKZGZbGbXGBcAAPDBCB2bK2D2bDHB11bVKVKSNRdOcIfXbDbGF5AiQbJGBQFbY2KAIVbKRbOU1WMbUbZBCANbM",
    "bAY0bD3ACAIbCDAMbPODVABAbDRBYTBb5GBABDBOBJHbObGHCBCVBGBBBEDASAME4JBACABbFBAZABAbMbUSDUC4bPU",
    "BBAfYbObJDbEbPUAb1bKNAcH0bFGfZbLgTHCACHBBBXPABAc4HCbGQABA2AKbHHAVALbNTAScIgHbA5IBbERAbR3dQG",
    "BBBbFVAZFBBB5OAXbLiESPABMBbBd2AcP8ZdGdORgDcsMdAPbbPRFZd80FsGgvZ3bxCrYH4RcOR3SbPQD5UFSnQbMmT",
    "cKFAcCMcABBAOEJhgVbJ5dBdSip3DBGBBBjCPA3CCAODImLciEdKFMDIHJitQApVbMKGQAkB3SbLpE1hE3CAgP4BCBB",
    "BGCEJBhAGBDBBBOBgEeGAbfUDB0BBBACABJBDBABAGAEABABABCBBBACABABABABABBBACDBGBDBDBABJBQFCBEBQek",
    "Ebjw5bAei3CfuNChjQPtNcnCq3bpCe6KFijJ"]),
  (["SContinue", "SC"],
   ["bMBMAbjCAfOBpKAeaJAFAcaKBd-MAbtqOBBA3B3BDACAKAfIBMAcJA"]),
  (["STerm", "ST"],
   ["bBA3AbkJAeTCfUAbLChWAb3ABADBjFBbxEByWAEByFAgGBgMAFAj0BlCDfCBKBCB3Cf1BcBB92BJCdpEANAWBnNA9h2",
    "AiOBhDADAl4BcWBc5AeYBeTCeQBhZAutKBfJA3AcBAcxUBbh3EbMDf3BdVDd5CeBBGAQBcYBBBdMAjKBdVBlVBFOdJB",
    "hZCqFABAh1BcXBnEBvUBcKBszJBeFAcBBLArJBjIAtqGAhpIA"]),
  (["Sep", "SE"],
   ["eFAh9CB"]),
  (["Sp", "SP"],
   ["JABBTAd5Afo5Acl5KbEAbPAd9AA"]),
  (["Upper", "UP"],
   ["cBZdFWBGbBABABABABABABABABABABABABABABABABABABABABABABABABABABABACABABABABABABABACABABABABA",
    "BABABABABABABABABABABABABABABABABABABBBABADBBABBBCCDBBBCDBBBBABABBBACABBBCBABBDAHBBBBBBABAB",
    "ABABABABABACABABABABABABABABACBBABCBABABABABABABABABABABABABABABABABABABABABABABABABABABABA",
    "BAHBBBCABDBABABABAjBABADAIAGABCBABBBQBIbDACCDABABABABABABABABABABABAFACABBCbSbQABABABABABAB",
    "ABABABABABABABABABABAJABABABABABABABABABABABABABABABABABABABABABABABABABABABBBABABABABABACA",
    "BABABABABABABABABABABABABABABABABABABABABABABABABABABABABABABABABABABABABABABABABABABABABAB",
    "ABACbFc6JbFBAFAwScVceTAlWABABABABABABABABABABABABABABABABABABABABABABABABABABABABABABABABAB",
    "ABABABABABABABABABABABABABABABABABABABABABABABABABABABABABABABABABABABABABABABABABAJABABABA",
    "BABABABABABABABABABABABABABABABABABABABABABABABABABABABABABABABABABABABABABABABABABABABABAJ",
    "HIFKHIHIFLABABABAIHYHIHIHIELELDMELEiFAEADCCCCADEGABABABDCDKBFA0PTAzSZbzQbPbQABCCABABABDBACA",
    "ICBABABABABABABABABABABABABABABABABABABABABABABABABABABABABABABABABABABABABABABABABABABABAB",
    "ABABABABAIABAEA+kNABABABABABABABABABABABABABABABABABABABABABABATABABABABABABABABABABABABABA",
    "eHABABABABABABADABABABABABABABABABABABABABABABABABABABABABABABABABABABABABABAKABABBBABABABA",
    "EABACABADABABABABABABABABABABEBEBABABABABABABABDBABBBABABABABABABABAYAvzLZbgFbHeIbDe2KBOBGB",
    "BbxKbSe3Vcz05vmA5cAYzkHZ0Z0Z0ABBCACBCDBH0Z0BBDCHBG1BBDBEBADG1Z0Z0Z0Z0Z0Z4YbBYbBYbBYbBYbBAej",
    "VbBcaOZGZGZ"])]

end Asn1Constraints.CodePoints
