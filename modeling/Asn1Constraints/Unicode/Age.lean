import Asn1Constraints.Unicode.CodePoints

/-!
The version of Unicode that each character came with, up to version 17.
-/

namespace Asn1Constraints.CodePoints

/-- The characters that each version added, from the first version on. -/
def ageTable : List (String × List String) := [
  ("1.1",
   ["ApVE3bYcYHbOBJWcF0BSBEADAFGBABTBbLBGDABABABABRNLBcBBLBbIJbUCBCBD1CHCBbXbFCGBbGBAbGJBIM0FEXA",
    "OADABZFSNNCcHCEBOB3CJqHCBbUCRCEDYQCBHCBCVBGBADDCABGCBCCJAEBBECUHACFEBCVBGBBBBBBCABEEBCCLDBA",
    "HOMCBGBABCBVBGBBBECJBCBCCAPAFJRCBHCBCVBGBBCDCHDBCCIBEBBCEKRBBFDCBDDBBABBDBDCDHBCEEDCBDJAPLO",
    "CBHBCBWBJBEEGBCBDHBJBEJSBBHBCBWBJBEEGBCBDHBHABBEJSBBHBCBWBPEFCCBDJAIBEJeRbZE2bFBBACBBACAGDB",
    "GBCBABACBBMBCCEBABFCJCBoCbFKbGEAEcZFcDFcRdaGe0FcZGVCFCbFCFCHBABABAB4CbUBOBNCFBSCCBIBbOBWbDG",
    "D0RKbFR4bY0bPNc0VhROABdYeFbE1KVeKVeVKcPQTGcVeRDBDC1BbCBABDDABGCGO4DXBNccBbXHABcTEFCc3GbHEc3",
    "BPdA2DbD21DbRPLEbOBdWEdCC4gqBunFqc0grNgSGMEGYBEBABBBBBdLbBlMQb5CbVbILbEDMUEJBSBDECBABeGCABc",
    "3Cc3DFCFCFCCDGBGOC"]),
  ("2.0",
   ["bmRQBMUAcj1cHBbAH0EFBABUDGBAdxBAqPAbc6Uk9Dckc0Bb--4Bb--4Bb--4Bb--4Bb--4Bb--4Bb--4Bb--4Bb--4",
    "Bb--4Bb--4Bb--4Bb--4eaaB"]),
  ("2.1",
   ["ifMAbx6PA"]),
  ("3.0",
   ["pWD4HCRdVEbRAKEcXITAdUADABABABA4AMAcCAMAbKBCDc2Be2AgICdCBFAPAbKEBNB3D0bVbQboRBBRDXBIBACGDAE",
    "FBABHSClVAbLAXCHABCBOCAbQbBBEBBBGDDGZnGGBb4BABDCGBABDCbGBABDC4BABDCGBABDCGBGBWB4BABDCGBbGBS",
    "G1bDcUMtVJ2DcQePc2DJWOBJGcXIbJb8FAYFc5CbSBcVBcIAdHIiNAdZAB3eKBoJHbBAcWBmOh5bmAZBcYMgV0Lb2CD",
    "AlBXsIgnVusKbeMDRCPBLBCBAvsWAbg1C"]),
  ("3.1",
   ["-UBb+o05biQ4BDM0fVbFCbFbs9ShVKbGDfTrCcUBcGBBCACBCDBLBABDBBBcABDCHBGB1BDBEBADGBkREjBEbRkaAbj",
    "wWujJq3wbpDA4c5"]),
  ("3.2",
   ["rAAjOATMdIB2AeTBbZBCBCBbRPk4BkBAckFBbqHMBGLWJTMMBCBBcgTAGEEAHENAb4BbSGcSOfILhSNd2A4bTi2TeXJ",
    "cYHWBc0LCJg4Nc01EPiAp5bj1CcXBIBc4AhQPcROcRO8pCBQAMADAvlKb08RADPbVBbMAhLB"]),
  ("4.0",
   ["rBASCdXBb5QcQHFCeXEqEDJIcACeVBPAbNC3CnUAfYAcDABAeIAcUCNAcDAb1AeBHgBBcy5ASJiG2DLELEADbJCEdL5",
    "yAdLxHBhGAuTBjOAiUBdUHOBbc4NbyPBbRAbLBcODfHDdDB5AgoAb5bl-3AcJBnXLBZBSBBBOCNbCd0FCEbMDIsA3BA",
    "eGBbGcPCJ6WFCABbLBBDACAbswAcWlKAylb4hP"]),
  ("4.1",
   ["rXKiWEe5DhWBfKAbCCcDASAb0FhR3qPAcQApHAbPA-JBjHBBAiKAb5Ab5AbHA5A5A5APAbHAXB5ZbpGbJGZGJEBbA1C",
    "B6McXuRBBGbRE3DbVAcQAPAuEKr2AdFBSKFPiOG6HFhMbOBbObBdKObMKbVJAQWJGBGBGBGBGBGBGBGbBXEB9CPfOA7",
    "jHVb6EWhJbLusEdJzWJzGcKqVbDENbrKDBBFHBCB0ECEIIIbr9HcFbc4B"]),
  ("5.0",
   ["sCNjLCkRAbKFQDfGAqFb0mABBB7CBNBdqNcLEbMsHGbTBxMDc3BbVAsXLwKAiUD6JGFDj2MHD+u5DFBi4bXyeIZFAfx",
    "A7OeRdCNDblxMRbcYB"]),
  ("5.1",
   ["7QDCBcXAfXAeMPhCELEbAEjORpRBg4AbDAgOA3BdMAdMA0BIBUHf3AGA3BMFDGpLBdBADCcNAFACAHCEF0b5EBcaKAw",
    "VbKDLcGbXDODbSkL1fVDc0FlEAeLAc4AbVDbiUAVJDDiIA5DzLEEbIDEiYCBCEFlC5YDCSx2AfCT7oYHbj2jLU5CRI1",
    "eDECdKdOEeAcEJLbGcTLAfAbWJNCJCDu+EC7JLbUbNeC2DbQbsPZFAbr-JAhwWbLEdD"]),
  ("5.2",
   ["bjEBw0bNCOgBAcNAGAbDBeAAboZDgBDf2EcEEcSFqAAtWIrQcFfUBbOAcFb4B2CKGJGNrCbCiKAvYCeXCbWAs4AvVB3",
    "CEJBSBAEXcXA-3EiWANBdLGj5AbaSL7lUHbiEbPnAcXjYJfG1dE2DcNBKEBeA1EcCYEhAbNCJk9WWEbQitPCdoSVBIf",
    "0BkE5eAbVD2C0FHeAcIqX4qBcBhz4bbObpgRKF4CALABACADADEIAHAZABBCAKDCAdPAPbBOIbnfXebU"]),
  ("6.0",
   ["bjGBhYAb4ApA1CAg1BTAGB1Ep0FnRAQATAr3DcJB8CBcdBbTIDp2AuYH2AzPKw0ATABD3AEB2AbDABAECJBbUCYAOAO",
    "BbnAAOAbbYC9fFBjLBBBOJcQAyGFCFCFJGBGueDPfb4cNE3v8QrYroHBqe4OCNCOBOcQABKBABBBCBCFHBGBJGIBACB",
    "BJEBBJcLZBBbPIVBfObAPFBcFDTMbEBEVQPb4BABfVBDDb3SXeTEBPBCBABABABCBFCDBACDBLEKbQcFb0dTbp+Mg3"]),
  ("6.1",
   ["bmPAdUAu1ABKbX0pRA-NBpHAFAbPCcvLCMFiAHbLDcwUABAbjEBbTAFAbYBgKJ8mQAbvHHbDAhSBWAcNBxGWtzXBd6Q",
    "bXGBbyQYHJGbUBNb2cIHJbfGbXIJwbWcELbOQQ-tADB0BBBACABJBDBABAGAEABABABCBBBACABABABABABBBACDBGB",
    "DBDBABJBQFCBEBQbUBtYB+UDf2AQADABABABADAGBEABBEA"]),
  ("6.2",
   ["if0A"]),
  ("6.3",
   ["bq2AgsJD"]),
  ("7.0",
   ["75AnIHc3BdWAu1ALFcMAdYAHAt5AbTAcMAd5AhEJciBHrEBmROrZBhNOwFCzWGyFAbcMCKZC5CbBDLBHtKG+cVFhWLL",
    "CCBcFApI4d3DfQbPEBuwBG63BTAj51bDAbQbKmFbHIbTLAeQjWJVKHhYb4IIoQ5bAbGELeJRHDMGbgPAgQbGcWAMAGT",
    "LRBbKdSb0FJHCBHCBCVBGBBBECICBCCJAFGCGDEiLcHIJfGbVCRbWcELJsGcSMAoAbYcdWbJgKLFAroL4BJEBdA3CFK",
    "cFKJBGBUFSudQdKFMDIHJCHk62gECPb-IAbAVVBqULJAcGAWLbFAFDFLRGcHABAfWAEBb5BEG3RBbIBcVcGBNbPcGJQ",
    "MDDeMcUbLLEbXIJGbHI3"]),
  ("8.0",
   ["cfTBbOAqVAlAAiEAbuVACFdgAAgLBctAD8+3IbwIAhQAbCFkEBtCDMcPutOBcvQSBBFEf2BCPCbNuAbSNbSHFbgJDOE",
    "fAGBABDBOBKcWAcPAtZTjCZDOEPdcZAhGgDhv2sGbc8XKbqXuLPEBOgd3CcOBcPEbEHh5AcLEhTBeLAr5IdHEb1Abps",
    "5fuB"]),
  ("9.0",
   ["cfWHWO83AgOAECBGXCdyHIlSAbp5DcsEB+lJAiWAwgHBzBbDEbDdkCAoBcZBABAqCMbmTIBbMBNK2D5CVBNuzJA5f-M",
    "TxSviNGBQCGBBBEcgVcKFJEBcb1ReOAz4AbJAjMBbBCrCFBHIACLBLEObGM"]),
  ("10.0",
   ["cdAKmRBh2FqAAb0Bd90Ah4DwFAz5Ab+SAtSExEA7vHUy6CCfwQcHIbTCWBEs3GBBBbLDABBBIIJuuHAqbAi2cRmLp7E",
    "FbdNBbCBqHLTAIHBBZASMbGFbYWbvgJhjQ"]),
  ("11.0",
   ["blAAbHAdGAqNCgTAjKAdXAmNAd5Ac-TAbaXbKCCdx0CWYEOsLExAA7v1Eb95AIBkEByjUBSAvXbHIJoGbHIbJlTAdWC",
    "pUAjCAv1AhFb1tBAwCFBBBbEBBBFHJjWYt6Hc0gkSEsxOTd4GghYcDbd0AboJAg1DlUC2ECDDABDYKNJHBbEYdAN"]),
  ("12.0",
   ["ddXAqOACACABFEAHAHBCANAdr5AdwOAbVAsPA+lKFCE85BzdYWbdIAsYAxHHCbNCKe5Bbj0bRNAfbQIoyMFEAbPIc0B",
    "gaOFkkYCRDl8YbMDNCJEBlQbZFAbsLA9Vb2bbOAblIAbEAhFLjBCbPAbRAJAbJFDBKFDHCCbQcT2DECFCNF"]),
  ("12.1",
   ["mx5A"]),
  ("13.0",
   ["cf4JuNAnOAd2Adj3BegWAvYC7IEg-WJurQMb+KDbKBbVAz1DvrQAdhDbJBCCBh41l1AeGBuKAFBbe4GCACHBBB3BBCL",
    "JJbsWAubTALBgyBpCbKIzaECc3Cb3AbjIBbDBnTBc0AdFAEBbKBGC3AfIAODPSHGJCNGbJeSBbWbFJbkw3GwjCe6K"]),
  ("14.0",
   ["bq3AsS4BBGHVASK7JAbAAd5AcrPAHAJAhPAvRNd3AbQBt1AwFAc7OAbPApTK8m5Cb+ABOBBABEYCu+NAl3Pd5AbOBb7",
    "QKBOBGBBBKBOBGBBoDFBbJBIb9VZhGFcMAbpWAeGG7JPfgQdCot3cOBJrjGDBGBBjADho3bNCWJdTrFBdiV47R4bjRG",
    "BDBBBOdw4CiQAmIAcSAfOBbMDKDICRCGHIGbk-HBecVD"]),
  ("15.0",
   ["dhTAo0AcabOCz5Ccf4J-WQBbID1fgVAJ2-g2AbCAilKTdcRFiFb3bBAbcAbJepCAeXCEEcZAu1CPBbECLCBAOBKBMAO",
    "BbpcAAxaWec5"]),
  ("15.1",
   ["l-2DpPAfoqAtN"]),
  ("16.0",
   ["ceXAevWBbPAiJBb82Cdn0B9pFCMCxpDbTb6MbFD2IBjSCbXAbeDJBACABbFBJBACABDBJBBIBxNTbg2bBOJ7AAfiFd8",
    "0hiFbZdaGbZh8FApyAhZGnTfy2bKEAevSJEBoHAFAbOAHAVACAJAhBbE"]),
  ("17.0",
   ["cePA+MAd5AdpSOCLboVAcwUA-bXBCABA2Au+RPn3BbWGc7RZblLCIIbBBddEHsIbLEJufWYCYi4EgaBHbiJVdBdSpyH",
    "Cn3WPQf+P4BVIBd+YAe4DkVIl1DbSADAbZAEA2AEAiKAboz5Ff7CLviCegJ"])]

end Asn1Constraints.CodePoints
