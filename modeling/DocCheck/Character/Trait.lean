/-!
# Traits of characters

A trait is a property that a character has or lacks, such as being alphabetic. Each entry gives the
names of a trait in lower case without separators, and the characters that have it as run lengths.

* `Character.traitTable` — the traits.
-/

namespace DocCheck.Character

/-- The characters that have each trait. -/
def traitTable : List (List String × List String) := [
  (["asciihexdigit", "ahex"],
    ["bWJHFbAF"]),
  (["alphabetic", "alpha"],
    ["cNZGZbVAKAEAFWBbEBrPELOEHABAdIAbDRBBCDBAGABCBABTBdEBfIIgJBbLCAGbObNNBABBBBBAIbAEDbDKFcDBGOd",
     "XBHEHECKCCAQbVNdWYbGJBEAFXCSTYHKFXBFIAIbPKLDGGcXBPBCEONSBHCBCVBGBADDDHCBCBBAIAEBBEMBKAECBFE",
     "BCVBGBBBBBBEEEBCBEAHDBARFLCBIBCBVBGBBBEDIBCBBDAPDVDECBHCBCVBGBBBEDHCBCBJBEBBENAQBBFDCBDDBBA",
     "BBDBDCDLEEDCBCDAGAbOMBCBWBPDHBCBCIBBCCACDbCDBHBCBWBJBEDHBCBCIBGBBDNCMMBCBbOCHBCBCBAFDHEWFBC",
     "BRDXBIBACGIFBABHSBNcFFGGAbZBBABEBXBABSBCCEBAGAODbGAcLHBbJESEPBbJcPcCBACEQcLKDCbLBAFACbQBmUB",
     "DCGBABDCbOBDCbGBDCGBABDCOBcEBDCcObLPQdHCFDxVCQBZFcWDKHTLUMTMMBCBBMbZCSOAEAcPdKHbQFcRKbEBLEI",
     "XbDCELbREZcCbBEcKCTbYAXBLCbXbZBOBHbZbPCDKbRBKOcCWCKbJCKFbQCCbPDBFBBDAFhJTbHLkRCFCbLCFCHBABA",
     "BABbECcABGBADCBGDDCFEMFCBGeMANAQMdXAEACJBADEGABABABDBKCDFEEARbObfHbZcrUiUGDDBMbLBAFACcDHAQW",
     "JGBGBGBGBGBGBGBGBbFbVAsBCZIHECEEdHGCBdLBDFbQBdPRbFbWPtSjtNcMbguEcPbTCkIDPKBUbUFHDeIbNICdYCc",
     "OCBBABHVTBbGYbZMcPBAbSFDABCKbGFbINbCDbYBLPAQPKEBcCJNSWDcQBABAYCCPCDLFCFCFJGBGBbQBNGeSVqnRMW",
     "EbWmnCoBCeBbMGMEFLBMBEBABBBBBeDbHnYScLCcBbOLeMEBfEbKZGZLdKDFCFCFCCbJLBZBSBBBOCNbIeScRcAkHbC",
     "DbWbVbFNbDFbQFbDCbJEHBEbQgBSbJEbJEbNIbZMKBOBGBBBKBOBGBBDbZMlYJVKHYFBbPBIcRFCABbRBBDACWKWJbE",
     "cNSBBKVKZcScDGBcMDBBFHBCBbCbQbCDbCbJHBbBbBcBKVKSNReGcUcDbYNbYNbNbIbBDAFWjQbPBBDBQCcDADbCKAI",
     "VbQRbUUbBWJcRbREKcEJANYXbYRDIbIDAJcLBDJBKABAbJRBbHCAGDcKGBABDBOBJHcEXDBHCBCVBGBBBEDHCBCBDAG",
     "AFGbCJBACABbLBJBACABDBBDABAbScNBCBDUCbEcNCBBAhCcBCGZFbIcKBADAcHcBCAcTbACNVGhDcEdZcLbFHCACHB",
     "BBbDBBCBCDdPHCbTCFBABBbBbYCJRcTFAScUhRbGbFIBbSBGBAbXbDCVBNcVGBBBbRDABBBCBACBYFBBBbKBBBDBAmP",
     "WJQBbODCeHAdBbjLdYeGRhNdxKdSPbpFRFZfxQFwKkdDbUcpDvWHbERdARbDSbVQDbFUFSqQbSiDcLeYcWEcEHQcMBB",
     "AMBOjbZIbvPbPJnfRDBGBBBlEPAbDCCAODIpFdkUeCFMDIHJEAiwFdGBcSBBCACBCDBLBABGBcMBDCHBGBbBBDBEBAD",
     "GBnBCYBYBbEBYBbEBYBbEBYBbEBYBHcsYbEGFiFGBQCGBBBEFcJbHAeIbSKGQAmJbDSbRsQbBiUbDCAtBGBDBBBOBhO",
     "cHcPDADAbuIDBbABBBACABJBDBABAGAEABABABCBBBACABABABABABBBACDBGBDBDBABJBQFCBEBQyEZGZGZfmKclfB",
     "bGgdTGiNCinPOlbKPxXdqWuVcfYhhYFgfF"]),
  (["bidicontrol", "bidic"],
    ["ciEAjvLBbAEcDD"]),
  (["caseignorable", "ci"],
    ["bNAGALAbJABAcTAEABAEACBtJhJEBEAJBBAjRGhZAFAbXbSBABBBBBAbSALFKKBAbJAKUQAdXHBJBDbHABAbEbAdNKc",
     "GKEACAYXbRCbSAHBFIbPcFcDABAEHEADGKBNAPAcGAEDIAUBbAACBcFAEBEBCCDAbEBDALBcFAEEBBEAUBWFBAcGACA",
     "BDIAHBLBbEAcJAMAbYADAcDABCFCBDHBLBbDAcGACAGAFBUBbCBcFBEDIAUBbDAcUAHCBAdMACGLIdUACIJABGcVBbB",
     "ABABAcDNBEBBFKBbJJAdYDBFBBCBZBECQDNACBGAPAdQAxKCbkKCbDBbEBbEBcMBBGIACKDAFAbTEbZAcNBbIAeOCEB",
     "JAGCiLBCAcGABGBABACHGJCAbNAIbEbXDbWABEBAFAbOIMBbGDCBBCcEABBDABCcGHCBcMFdECBMBGEAGADBbYcKNAb",
     "IdWrDABCLCNCNCNBMEIBKACACEbXEBJBANAQMbZbGejRBeJCeVAPAdSbFbVAsBAbKDDEFAdPFdPCbqbUAbwCFkKAdUD",
     "BJBAbCDdCBObHdAAXCdZCDBIADAEAZBFAfVBbARNAbMHZKbUCbWACDCBRAVBcOFCBCBMAIAbJALAbZABCCBFBBAbBAO",
     "BFBBAdWEJCeRACAEAbdzSAfRQwBPDAMPbIACAgNAHAGALAbJABAbVAbTBcPAVCtTAiSAfTEbnPFBbPBIwKCBBFDbOCE",
     "AgJBwBDbMAbAEBAmDBdBDcSKbXDeTAcCObPACBKCbXDCBCAEAKAbYCbKEBHcKAMBcAIKDCAdRCCABBGACAgBADHVBcF",
     "BDAbLGDEcSFNABABAOBdHHCCBAXAdGFBAEBBBjEDGBBBbBBdHHCABBeCABACFBAdXABACDBEjZIBBjWBBAEAfODCBEA",
     "bGJbOFCDIAJFCCbUMBBpQGBFBAdEVCGBBBBeSFDABBBGBAcUBDABAnJBLBcAEFABAXAhxDQGOqyYLDCdsAEcHGJDtOC",
     "bOBsOAcLQcMBBBygPDBGBBeuGBBDgyUbTCWuYCJPCGbEDfSCcyDcCEbXIAOAWEBOcaIGBQCGBBBEFcJbHAgENoEAcJD",
     "tNEjUBbcIGeFHebFEbsxxPAbEdReYjF"]),
  (["cased"],
    ["cNZGZbVAKAEAFWBbEBhMBDEhZBbJHBbEEdSAbQDCBCDBAGABCBABTBdEBfIIgJBbLJbOefFbLBAFACbQBDzWdHCFdfU",
     "KFbQCCcMhJcMkRCFCbLCFCHBABABABbECcABGBADCBGDDCFEMFCBGeMANAQMdXAEACJBADEGABABABDBFEACDFEEARb",
     "FDBbfLbZcrUiUGDDBMbLBAFAbtwCbTSbDfCdXDDBcJCBBABHVEBCbfPbQBNGdBbeaIGMEbnTZGZbtTdBdSbJEbJeMKB",
     "OBGBBBKBOBGBBrJACCBbPBIbuZbYNbYdPVKVefIcLbgiQcLbmlKdGBcSBBCACBCDBLBABGBcMBDCHBGBbBBDBEBADGB",
     "nBCYBYBbEBYBbEBYBbEBYBbEBYBHcsYJBTGFkBcJdgKcPdaAZGZGZ"]),
  (["changeswhencasefolded", "cwcf"],
    ["cNZdMAKWBHbGABABABABABABABABABABABABABABABABABABABABABABABABABABABACABABABABABABABABBBABABA",
     "BABABABABABABABABABABABABABABABABABABABBBABABABBBABBBCCDBBBCDBBBBABABBBACABBBCBABBDAHBBBBBB",
     "ABABABABABABABACABABABABABABABABACBBABCBABABABABABABABABABABABABABABABABABABABABABABABABABA",
     "BABABAHBBBCABDBABABABAjMAbQABADAIAGABCBABBBQBIWAMCDBBABABABABABABABABABABABABBCBBABBCbYbWAB",
     "ABABABABABABABABABABABABABABABAJABABABABABABABABABABABABABABABABABABABABABABABABABABABBBABA",
     "BABABABACABABABABABABABABABABABABABABABABABABABABABABABABABABABABABABABABABABABABABABABABAB",
     "ABABABABABABACbLbWAefGbLBAFAbfEFdfUJGbQCCmIABABABABABABABABABABABABABABABABABABABABABABABAB",
     "ABABABABABABABABABABABABABABABABABABABABABABABABABABABABABABABABABABABABABABABABABABABABABA",
     "BABABABABAFBCABABABABABABABABABABABABABABABABABABABABABABABABABABABABABABABABABABABABABABAB",
     "ABABABABABABABABABAJHIFKHIHIFLABABABAIHQbVCCCFFCCFLDMEFCCFlLADBGAbTPTAbfMZcsUbVbWABCCABABAB",
     "DBACAICBABABABABABABABABABABABABABABABABABABABABABABABABABABABABABABABABABABABABABABABABABA",
     "BABABABABABABAIABAEAbtyJABABABABABABABABABABABABABABABABABABABABABABATABABABABABABABABABABA",
     "BABABAfFABABABABABABADABABABABABABABABABABABABABABABABABABABABABABABABABABABABABABAKABABBBA",
     "BABABAEABACABADABABABABABABABABABABEBEBABABABABABABABDBABBDAFABABABAYAbiGdBbeaIGMEbnTZbuZbN",
     "fGbJgAKBOBGBBcqCbYgBVegObFbgjWbFbulKbH"]),
  (["changeswhencasemapped", "cwcm"],
    ["cNZGZcGAKWBbEBcLBdFBbBCNCBBAEdOBRGbABBBABBDBBDBECABBCAHACABBDFFAKBgKAbQDCBDCBAGABCBABTBbUDb",
     "GBEBfCIgJBbLKbMefGbLBAFACbQCCzWdHCFdfUKFbQCChDADAQAeJfZCABeNCFCbLCFCHBABABABbECcABGBADCBGDD",
     "CFEMFCBGlLADBGAbBARbFDBbfLbZcrUeIBBBBHdXHDDBMbLBAFAbtwCbTSbBfENCcJJODCCEBYBbDCBEGYBbhCAbCdB",
     "beaIGMEbnTZGZbtTdBdSbJEbJeMKBOBGBBBKBOBGBBcoPbYNbYdPVKVefIcLbgiQcLbukEcP"]),
  (["changeswhenlowercased", "cwl"],
    ["cNZdXWBGbHABABABABABABABABABABABABABABABABABABABABABABABABABABABACABABABABABABABACABABABABA",
     "BABABABABABABABABABABABABABABABABABABBBABADBBABBBCCDBBBCDBBBBABABBBACABBBCBABBDAHBBBBBBABAB",
     "ABABABABABACABABABABABABABABACBBABCBABABABABABABABABABABABABABABABABABABABABABABABABABABABA",
     "BAHBBBCABDBABABABAlDABADAIAGABCBABBBQBIbJAIABABABABABABABABABABABAFACABBCbYbWABABABABABABAB",
     "ABABABABABABABABABAJABABABABABABABABABABABABABABABABABABABABABABABABABABABBBABABABABABACABA",
     "BABABABABABABABABABABABABABABABABABABABABABABABABABABABABABABABABABABABABABABABABABABABABAB",
     "ACbLehDbLBAFAbbUdHdgLAGbQCCmIABABABABABABABABABABABABABABABABABABABABABABABABABABABABABABAB",
     "ABABABABABABABABABABABABABABABABABABABABABABABABABABABABABABABABABABABABABABABABABABABAJABA",
     "BABABABABABABABABABABABABABABABABABABABABABABABABABABABABABABABABABABABABABABABABABABABABAB",
     "ABAJHIFKHIHIFLABABABAIHYHIHIHIELELDMELElLADBGAbTPTAbfMZcsUbVbWABCCABABABDBACAICBABABABABABA",
     "BABABABABABABABABABABABABABABABABABABABABABABABABABABABABABABABABABABABABABABABABABABAIABAE",
     "AbtyJABABABABABABABABABABABABABABABABABABABABABABATABABABABABABABABABABABABABAfFABABABABABA",
     "BADABABABABABABABABABABABABABABABABABABABABABABABABABABABABABABAKABABBBABABABAEABACABADABAB",
     "ABABABABABABABABEBEBABABABABABABABDBABBDAFABABABAYAbhaHZbuZbNfGbJgAKBOBGBBcqCbYgBVegObFbgjW",
     "bFbulKbH"]),
  (["changeswhentitlecased", "cwt"],
    ["dTZcGAbPXBHBABABABABABABABABABABABABABABABABABABABABABABABABABABABACABABABABABABABBBABABABA",
     "BABABABABABABABABABABABABABABABABABABACABABCCABACADAFACADCCACABABACAEACADABACADABAEABBBBBAB",
     "ABABABABABABABBBABABABABABABABABCBABADABABABABABABABABABABABABABABABABABABABADABABABABABABA",
     "BABAIACBBAEABABABABFBBBABBDBBDBECABBCAHACABBDFFAKBgKAbRABADADCSAbBbIBBDCBABABABABABABABABAB",
     "ABABEBACACAcAbVBABABABABABABABABABABABABABABABABAJABABABABABABABABABABABABABABABABABABABABA",
     "BABABABABABACABABABABABABBBABABABABABABABABABABABABABABABABABABABABABABABABABABABABABABABAB",
     "ABABABABABABABABABABABABABABABAbXbMfmEFdfUIBAjEADAQAeKABABABABABABABABABABABABABABABABABABA",
     "BABABABABABABABABABABABABABABABABABABABABABABABABABABABABABABABABABABABABABABABABABABABABAB",
     "ABABABABABABABABABABGFABABABABABABABABABABABABABABABABABABABABABABABABABABABABABABABABABABA",
     "BABABABABABABABABABABABABIIFKHIHIFKHIHINCHIHIHIEBBGADCBBIDCBIHKCBBnEAbHPEAbgLZctQbVBADBBABA",
     "BAGACAKABABABABABABABABABABABABABABABABABABABABABABABABABABABABABABABABABABABABABABABABABAB",
     "ABABABABABABABAIABAEAMbLBAFAbtwDABABABABABABABABABABABABABABABABABABABABABABATABABABABABABA",
     "BABABABABABABAfFABABABABABABADABABABABABABABABABABABABABABABABABABABABABABABABABABABABABABA",
     "KABACABABABABAEAEABBCABABABABABABABABABALABABABABABABABAEABACADAFABABAbAAbhCAbCdBbeaIGMEboZ",
     "ZbvHbNfGbJfZKBOBGBBcrBbYeVVegObFbgjWbFbulMbH"]),
  (["changeswhenuppercased", "cwu"],
    ["dTZcGAbPXBHBABABABABABABABABABABABABABABABABABABABABABABABABABABABACABABABABABABABBBABABABA",
     "BABABABABABABABABABABABABABABABABABABACABABCCABACADAFACADCCACABABACAEACADABACADABAFBBBBBBAB",
     "ABABABABABABBBABABABABABABABABBBBBADABABABABABABABABABABABABABABABABABABABADABABABABABABABA",
     "BAIACBBAEABABABABFBBBABBDBBDBECABBCAHACABBDFFAKBgKAbRABADADCSAbBbIBBDCBABABABABABABABABABAB",
     "ABEBACACAcAbVBABABABABABABABABABABABABABABABABAJABABABABABABABABABABABABABABABABABABABABABA",
     "BABABABABACABABABABABABBBABABABABABABABABABABABABABABABABABABABABABABABABABABABABABABABABAB",
     "ABABABABABABABABABABABABABABAbXbMehCbQCCbdGFdfUIBAjEADAQAeKABABABABABABABABABABABABABABABAB",
     "ABABABABABABABABABABABABABABABABABABABABABABABABABABABABABABABABABABABABABABABABABABABABABA",
     "BABABABABABABABABABABABABGFABABABABABABABABABABABABABABABABABABABABABABABABABABABABABABABAB",
     "ABABABABABABABABABABABABABABABIIFKHIHIFKHIHINCcABBEABADCBBEADDCBIHKCBBEAmZAbHPEAbgLZctQbVBA",
     "DBBABABAGACAKABABABABABABABABABABABABABABABABABABABABABABABABABABABABABABABABABABABABABABAB",
     "ABABABABABABABABABABAIABAEAMbLBAFAbtwDABABABABABABABABABABABABABABABABABABABABABABATABABABA",
     "BABABABABABABABABABAfFABABABABABABADABABABABABABABABABABABABABABABABABABABABABABABABABABABA",
     "BABABAKABACABABABABAEAEABBCABABABABABABABABABALABABABABABABABAEABACADAFABABAbAAbhCAbCdBbeaI",
     "GMEboZZbvHbNfGbJfZKBOBGBBcrBbYeVVegObFbgjWbFbulMbH"]),
  (["dash"],
    ["bTAcaUAbZAfkJAbnPAdbDFcJAbNAPApAAeoIACAbFBEAbCArEATAeHAczwABbLAKAgNAflOAmGA"]),
  (["defaultignorablecodepoint", "di"],
    ["gRAzXAbbOAegWBckHBdHEdaPEbAEbXPgkYAczmPPjFAgEAdBIctlNDhwXHbtkzLgbN"]),
  (["deprecated", "dep"],
    ["mRAbyVAdkTABAdcJBdiJFbaVBbzryKA"]),
  (["diacritic", "dia"],
    ["dQABAcTAGAEACBtJgCBHFFRBEAJBjTEiBAcDbSBABBBBBAfBHEBfEBEBDCcPbAdNKcGKbIBeWHbPJQbBcJAQADDbCAc",
     "WAQAeGAQAeGAQAbVCcIAQAHAePAeGAQAeGAQAeFBQAeUAeHAMFBAeDANEcXBbBABABAEBcOCBBcKAeIABBbOBEEZGBA",
     "KBbbDCbkMBbEAfSKJAnJClGAUHCAbWOCKeAAPAbMIcCBcGALBcOBcMFdEYEAGACCbYcKbWbJFLbLKrDABCLCNCNCNBe",
     "xKCmFAtMFeBDdRAbsmKAMBBAbCBdEBObHdYCeFBMAbLAfVAbBRcFDbKAdRAMAbKAfTCcNDbZAdWEJCeYBbdzSAbdPPk",
     "KABAbVAbTBcPAbdKAbtNFBbPBIyNCEAgJBvZFbMAbAEpJCcSKbXDhKAbPAcUBeQBcKAcYAJCeABgWBdCBQAYGDEdLCB",
     "BNBdRADAeTBjRBeWAeOBeLAkJBjYBEAgAAdFASAdDAqFAjYABBdDAqJBXAhyAOqzPAdsAEcHGvSBvAQdCBygCDBGBBl",
     "tHbTCWuYCDFIHCGbEDfmWcJhMGoLAcJDbdMBbcIGeFCBC"]),
  (["emoji"],
    ["bJAGAFJeHAEAlyRAMAiIAWAdMFPBoDBMAgKAZKEChRAiXBKAJAcGDBEJACACBCAEACABBCADADBICFABAFLLBCABBBA",
     "SACBSFBABBDBFACBEBLBFBCAFBBABBUBFFBDCAEACACFBACABABAGADAGAKBPACAEABAECBALBbWCJAOAOAoIBrVCTB",
     "bZAEAbvUAMAxDABAgmrQAhUAgEBMBOACJcXZBBXAUACIVBgSbHCeHCBBCCdECCBkCBcKLFBXHBCHMACDCAEBNBCAIBJ",
     "AFCMCICCABAEAGADAGdHbWcRFHCCEJDABBDACJiTLEAkXbUBJBhCeIMDJFcDHOCKGI"]),
  (["emojicomponent", "ecomp"],
    ["bJAGAFJmbJAiFAdftRAdoiWZtNEceADbsvuQdR"]),
  (["emojimodifier", "emod"],
    ["hhiXE"]),
  (["emojimodifierbase", "ebase"],
    ["olHAiLAQDgsjVAcICCACCeNBCKVSDAECBCHABAYAhTBEAVAEBgSCDEdFAQCJALAwDACAIHGAJJCCcEAcJBBBBARCBMi",
     "VCbQI"]),
  (["emojipresentation", "epres"],
    ["nhQBhXDDACAuBBVBbYLbRATANAIBRBFBIAFAVAHBBAEACAHAEBbCAbJABAECBAcJCYAOAbhBBbZAEAgplEAhUAhIACJ",
     "cXZBAYAUACEBCVBgSbGMIBcRBVMbQEEMQDADcSBABhECcKNDBXSAbABNAdIdGbWcRGADCCCEDLBHIiTLEAkXbUBJBhC",
     "eIMDJFcDHOCKGI"]),
  (["extendedpictographic", "extpict"],
    ["gNAEAlyRAMAiIAWAdMFPBoDBMAdRAcSAZKEChRAiXBKAJAcGDBFBLBeJKeNCKBABAGADAGAKBPACAEABAECBALEbTCJ",
     "AOAOAoIBrVCTBbZAEAbvUAMAxDABAgmrMjVNCbFAcIFMBOACJScEbBOKAUACIBDJqRFmFIkFbWeXeMLdHbQMDcEHKFb",
     "OHbEdDMbUBJBqYjWbnH"]),
  (["extender", "ext"],
    ["hBAuQBbhUAqZAyGAfHAdLAbcYAeXAdnFAcEAxNApIAcQAhkJAbREdZBdPCbqbUAcgSAblAAWAfHAeEAVBbfzVAdbKBc",
     "fBAbBAEAbvBAlHAeMBtECbvJAbeoFBbtKBBAbqyABbuFAbgUC"]),
  (["graphemebase", "grbase"],
    ["bGdQbHMBwVeIHCFEGBABTBiPHgJBbLCbXCCbUABACACAJbAEFRJLABbTVPBdWIAGBCAEbFCABbDbDdKLAObQJGDXEAJ",
     "ADAHOBYFABKFbERbPcFcCBABDIDBCHJCbCBBBHCBCVBGBADDDABBGBCBBANBBCEXFABFEBCVBGBBBBBBECYDBAHJCCB",
     "AMABIBCBVBGBBBEDDIABBDAPBELHAIBBHCBCVBGBBBEDACAGBCBPBBCERLABFDCBDDBBABBDBDCDLFABBDCBCDAVUGC",
     "BHBCBWBPDADDTCCACBEJHJBKBCBWBJBEDBCABBYBBBEJBCOKBCBbOCABBFCBCBBECBJEZCBBRDXBIBACGJBGGHJCCMb",
     "VBBLHIMbLBBABEBXBABJBBJACEBAJJCDbGXCbABABABNBbJSAFACEbXHBFBMbLbSEAGACBCYCDDPEMBBCFBOBbNBAFA",
     "CoMBDCGBABDCbOBDCbGBDCGBABDCOBcEBDCcOFbCDZGdHCFCzSDdKHRNSDBJROMBCPbZCAHHBBLIDJGJGKFJGdKHECb",
     "HBAFcRKbEEDCCEBBFHADbPCELbREZGKDcECBDcDBAJABBIFNJGJGNdIbVKDDHBbCJLCbFEBGcDBACCBANbVIBFODcJF",
     "bQCKLANAHDBFBCCAFhJcMkRCFCbLCFCHBABABABbECcABOBNCFBSCCBIBKFXHbWQBCbABMDbGcLfJEzPWKVcrRCbFBn",
     "FDBFbSBAFACcDHBPWJGBGBGBGBGBGBGBGbHdPbIZBdKMiFbAcFGPBdHEdWFbQBdPBdHJbVBbriQDcCJnJUbUEAKbFCd",
     "BCFIhXCBBABHVPBCBDBYCEEJGcDIcPKLYMBbLIYLAMbDGbVBBEBCBBMBKEGBYBbOGBCBLCBHBACJCbFBbYBADBCECAB",
     "AYQCHLFCFCFJGBGBcHEeMBBBDDJGqnRMWEbWmnCoBCeBbMGMEFABXBEBABBBBBeUQrCCcBHAbGPQJWbIBSBDEEBfEEg",
     "ACbEDFCFCFCCDGBGNBCLBZBSBBBOCNbIeSFCEbSDdJBMDAbVbSfBbCDbWQbAEbJJbDFbLKbDBbKENbQgBCJGbJEbJEb",
     "NIbZLLBOBGBBBKBOBGBBDbZMlYJVKHYFBbPBIcRFCABbRBBDACWBcTIIbWSBBFbGDbAFAcMcDETCbUPDBCBbCKIHIHc",
     "LbGbKGLJcBDbCCbAFZHDMGdCcUcDbYNbYHbPMJGbLIXIBiAbEBbPDACBQCcHbNIVLIWREDbMbBUWJABcBPGEbDBBCAM",
     "bWEBCBBDOYHJJbJFAJRIbIBCLbZJABHEBBPBTLRBbBDBEFBBcLGBABDBOBKGbUBCNJIBBHCBCVBGBBBEDABABDCBCBD",
     "AMGbCJBACABbLBABBPABBDABCBBbNcDIBDABUBABCbEbVBBGABBBACACDIJgKbUBBGDCACbAbKbYIBBACDLJGMTbQBA",
     "BBIBGJGTbCbADABBEAJWhDbUJACAdWdEMHCACHBBBXBEBBGDBCJJcSHCbPIDBDbBAKbNGBEHJAGBDbTNACINcUHJhAb",
     "HOJGIBbLOABFKbCDbFZAHACAcXGBBBbLVAJJGFBBBbKEBBABAHJlYSCDJOBbJIBDWdIAPbXNbjMdYeGBELhNdxKdUNb",
     "pFRFZfxQFwKkdDbDMCDJcoSvWHbEBJEdCBJGbDHAKbVHOKJBGBUFSqQcFhQdMdXcWFcDLMcMDbCjbZIbvPbPJnfRDBG",
     "BBBlEPAbDCCAODIpFdkUeCFMDIHJCACAfvKjPGqTgAeLcIjLKbMCcHFCWBHbDEcIVcNDAeSTMTMdIJYfFdGBcSBBCAC",
     "BCDBLBABGBcMBDCHBGBbBBDBEBADGBnBClFCvPcDDbYHBNBGbrWbEGFkBcJfQbSKGCJEBmIbDSbREJFArWbBEJiGbDC",
     "KEAsMGBDBBBOBhOCIbWcPHAEJEBbeFcPcYcIhMDBbABBBACABJBDBABAGAEABABABCBBBACABABABABABBBACDBGBDB",
     "DBABJBQFCBEBQcABkKbREdVMOCOBOBbKKgRcEbCNbREIHBOFfYblVEQDMDeOEdQGLEAPLEcDIJGbNIbDCLEBcKnBMNC",
     "MDJFcDHOCKGIHfQBdXbnQclfBbGgdTGiNCinPOlbKPxXdqWuVcfYhhYFgfF"]),
  (["graphemeextend", "grext"],
    ["bdOeHkPGkDbSBABBBBBAcUKbWUQAdXGCFCBBDbJAbEbAdNKcGIJAYDBIBCBEbRCcHIbQXBbFcDABAEHEADGKBbDAcGA",
     "BACDIAJAKBbAACBcFAEBEBCCDAbEBDALBcFAEEBBEAUBWFBAcGABBBDIAHCKBbEAcHABAMAJAbOADAcDABCFCBDHBLB",
     "bDAcGACBBADCBDHBLBbCBcFBBACDIAJAKBbDAcUAEACCBAIAdDACGMHdUACILGcVBbBABABAcDNBEBBFKBbJJAdYDBF",
     "BBCBZBECQDNACBGAPAbbBCbkKDbCCbDBbEBcMBBGIACKJAbTCBAeNBbIAeOCEBJAGCiLBCAcGABGBABACHGJCAbWbEb",
     "XDbWJECbMIMBbGDCFcEABBDABEcEHCBfWCBMBGEAGADBhQcLuEAhNbGeoCCfLAdSbFvIFeBBbsqEDBJbGBdCBkMADAE",
     "AZBFAfVBbARNAbMHZKBAbSCbWACDCBCAbKAcPFCBCBMAIAbVAbZABCCBFBBAbQBIAjEACAEAbdzSAbcJPQPoCBxHAiS",
     "AfTEcmGCBBFDbOCEAgJBwBDcNEmFBdBDcSKbXDeTAcCObPACBKCbXDCBHAcJCbKEBHcKAMBcAIBAIDCAdRCCDGACAgB",
     "ADHVBcFBBABAMAJAOGDEcPACFBACABCECBAOBdHHCCBAXAdDACFBACABBBBjBACDGBBBbBBdHHCABBeCABACHdXABAC",
     "DBEjZIBBjLAKDEAfODCBEAbGJbOFCDIAJFCCbUMBBpQGBFBAdEVCGBBBBeSFDABBBGBAcUBDABAnJBLBcAEFCXAhxTA",
     "GOqyYLDCdsAEcHGboIAcLDdDALBbdaXBgyZbTCWuWEDFIHCGbEDfSCcyDcCEbXIAOAWEBOcaIGBQCGBBBEdWAgEGoLA",
     "cJDtODjUBbcIGeFGbtcaFdReYjF"]),
  (["hexdigit", "hex"],
    ["bWJHFbAFdslLJHFbAF"]),
  (["idsbinaryoperator", "idsb"],
    ["seABCJtDA"]),
  (["idstrinaryoperator", "idst"],
    ["seCB"]),
  (["idcontinue", "idc"],
    ["bWJHZEABZbVAKABACAFWBbEBrPELOEHABAReMBBCDBAGEBABTBdEBfIBECgJBbLCAGbOIbSBABBBBBAIbAEDbDKFcVE",
     "dXBHCJBSCAQcGCdWOcBEACACbTSbBEKFXBFIcWBeYCJBSBHCBCVBGBADDCICBCDIAEBBECLKABACCBFEBCVBGBBBBBB",
     "CABEEBCCDAHDBAHPLCBIBCBVBGBBBECJBCBCCAPDCJJGBCBHCBCVBGBBBECICBCCHCEBBECJBAQBBFDCBDDBBABBDBD",
     "CDLEEDCBDCAGAOJQMBCBWBPCIBCBDHBBCCACDCJQDBHBCBWBJBECIBCBDHBGBBDCJBCMMBCBbYBCBEFDHECJKFBCBRD",
     "XBIBACGDAEFBABHGJCBNcFFOBJbNBBABEBXBABWCEBABGBJCDbGAXBGJLABABAEJBbJETBRBbJJAcFcVGcZCbLBAFAC",
     "bQBmUBDCGBABDCbOBDCbGBDCGBABDCOBcEBDCcOCCJIOPQdHCFDxVCQBZFcWDKHVJVLTMMBCBBMdFDAEBCJbHCBKGdK",
     "HbQFcRKbEBLELKbNCELbREZGKbLbBEcKBbCCKGJNAINBPbXcYDJRIMeLMcDIJDbWCKFbQCCQCBbMFuNCFCbLCFCHBAB",
     "ABABbECcABGBADCBGDDCFEMFCBGPBbXBTAbCANAQMbZMEADLRAEACJBACFGABABABPCDFEEARbOdzBiUGIMbLBAFACc",
     "DHAPXJGBGBGBGBGBGBGBGBbFtXCZOBECEEdHCGBdQFbQBdPRbFbWPtSjtNcMbguEcPbTCkIDbBUbVEJBeKbLICdYCcO",
     "CBBABHVcBEATbZMcRKJGXDABbWCbJMbCDcMOKGbEBcCJNCJGWDcUYCCPCEKFCFCFJGBGBbQBNGeSBBCJGqnRMWEbWmn",
     "CoBCeBbMGMEFLBMBEBABBBBBeDbHnYScLCcBbOLEPQPDBYCbGEBfETJHZEABZKdLDFCFCFCCbJLBZBSBBBOCNbIeScR",
     "cAfGAfAbCDbWPAbFbFNbDFbQFbDCbJEHBEbQgBCJGbJEbJEbNIbZMKBOBGBBBKBOBGBBDbZMlYJVKHYFBbPBIcRFCAB",
     "bRBBDACWKWJbEcNSBBKVKZcScDGBcMDBBFHBCBbCCCEAbGbCDbCbJHBbDZcBKVKSNReGcUcDbYNbYNbNIJGbLDEBWjQ",
     "bPBBDBQCcDbGKAIbGbFVbQUbBWJcSbFPJcHHANYHJGcABJEDIbJCAJcQEDBMBAbJRBbKGDcKGBABDBOBJHcGFJGDBHC",
     "BCVBGBBBEBJCBCCCAGAFGCGDELJBACABbLBJBACABDBHNBbDcWFJEDbEcRBAIJgKcBCIXFbIcMDALJbMcEHJGTbCbAC",
     "OEJGGhDcGdXcVVHCACHBBBbDBBCIMJcSHCbTCHBBbBcKIAIcVDAScUhRbGPJGIBbSBIPJYbDCVBNcVGBBBbRDABBBII",
     "JGFBBBbKBBBFHJlYWJQBbODENKdHAdBbjLdYeGRhNdxKdSPbpFQVKfxQFwKkdDcFcoSvWHbEBJGdABJGbDCELcCJDMJ",
     "JUFSqQbSDJhQcLeYcWEcEHQcMBBBLBOjbZIbvPbPJnfRDBGBBBlEPAbDCCAODIpFdkUeCFMDIHJDBgeRJtYbTCWuWED",
     "FIHCGbEDfSCrBdGBcSBBCACBCDBLBABGBcMBDCHBGBbBBDBEBADGBnBCYBYBbEBYBbEBYBbEBYBbEBYBHCbXtScCEbX",
     "IAOAWEBObqMbEGFiFGBQCGBBBEFcJbHAeIbSDNCJEAmJbERcFsCbPiGbQsRGBDBBBOBhOLGbPcXEJbtUDBbABBBACAB",
     "JBDBABAGAEABABABCBBBACABABABABABBBACDBGBDBDBABJBQFCBEBQfaAJbnQclfBbGgdTGiNCinPOlbKPxXdqWuVc",
     "fYhhYFgfFbonhGjF"]),
  (["idstart", "ids"],
    ["cNZGZbVAKAEAFWBbEBrPELOEHABAeZEBBCDBAGABCBABTBdEBfIIgJBbLCAGbOcTbAEDbTbQbJBBdUBAPBHBKCCAQAB",
     "bDbDdKLAYbGJBEAFVEAJADAXYHKFXBFRbPcGcBDASAHJPPEHCBCVBGBADDDAQANBBCOBKAIFEBCVBGBBBBBBbFDBATC",
     "QIBCBVBGBBBEDASAPBXALHCBCVBGBBBEDAbEBBCPARABFDCBDDBBABBDBDCDLWAcAHBCBWBPDAbACCACBbEAEHBCBWB",
     "JBEDAbFBBBPBRIBCBbOCAQAFCICYFFRDXBIBACGcGbVBBMGcGBBABEBXBABJBBJACEBAVDbGAcLHBbJbBEeLbQUAQFE",
     "DDADBHCEMMARbLBAFACbQBmUBDCGBABDCbOBDCbGBDCGBABDCOBcEBDCcObLPQdHCFDxVCQBZFcWDKHRNSOROMBCPbZ",
     "bJAEAcPdKHbOBAFcRKbEbXbDCELbREZcCWJcAdEAdPbURHcCbDNBKbRbAbJbPCKbJCKFbQCCbPDBFBBDAFhJcMkRCFC",
     "bLCFCHBABABABbECcABGBADCBGDDCFEMFCBGeMANAQMdXAEACJBACFGABABABPCDFEEARbOdzBiUGDDBMbLBAFACcDH",
     "AQWJGBGBGBGBGBGBGBGvECZIHECEEdHEEBdLBDFbQBdPRbFbWPtSjtNcMbguEcPbTCkIDPKBUbUQbECdBbNICdYCcOC",
     "BBABHVPBCBDBWbDbZObXcKFDABBLbBKWZbCHbUbCAQEBJKEBbOXCBHUWDADbXBADBCECABAYCCKHCMFCFCFJGBGBbQB",
     "NGeKbDqnRMWEbWmnCoBCeBbMGMEFABJBMBEBABBBBBeDbHnYScLCcBbOLeMEBfEbKZGZLdKDFCFCFCCbJLBZBSBBBOC",
     "NbIeScRcAkHbCDbWbVbFNbDFbLKbDCbJEHBEbQgBSbJEbJEbNIbZMKBOBGBBBKBOBGBBDbZMlYJVKHYFBbPBIcRFCAB",
     "bRBBDACWKWJbEcNSBBKVKZcScDGBcMAPDBCBbCbQbCDbCbJHBbBbBcBKVKSNReGcUcDbYNbYNbJbMbBJWjQbPGBQCcH",
     "bCKAIVbQRbUUbBWMcAcFBCANbSbGYbAbJbDACAIbIDAMbVODVABAbJRBYTBcLGBABDBOBJHbUbMHCBCVBGBBBEDASAM",
     "EbEJBACABbLBAZABAbScASDUCbEbVUBBAhCbUbPDbKbVUAcHbQNAcTbAbLGhDbReMcLbFHCACHBBBXPABAdQHCbMQAB",
     "AbCAKbNHAVALbTTAScUhRbGbFIBbKRAbXbDeIGBBBbLVAZFBBBbFOAmPSPABMBbHeUAdBbjLdYeGRhNdxKdSPbpFRFZ",
     "fxQFwKkdDbDcpUvWHbERdARbDSbVQDbFUFSqQbSiDcLeYcWFAcOMcMBBAbCjbZIbvPbPJnfRDBGBBBlEPAbDCCAODIp",
     "FdkUeCFMDIHJiwKdGBcSBBCACBCDBLBABGBcMBDCHBGBbBBDBEBADGBnBCYBYBbEBYBbEBYBbEBYBbEBYBHcsYbEGFk",
     "BcJfQbSKGQAmJbDSbRsQbBiUbDCAtBGBDBBBOBhOcHcPHAbuIDBbABBBACABJBDBABAGAEABABABCBBBACABABABABA",
     "BBBACDBGBDBDBABJBQFCBEBQgoAclfBbGgdTGiNCinPOlbKPxXdqWuVcfYhhYFgfF"]),
  (["ideographic", "ideo"],
    ["seWBZIOCblDjtNcMbfbJbhsIoBCeBbsiKAbBjbZIbvPbPJnuLpFbdeIclfBbGgdTGiNCinPOlbKPxXdqWuVcfYhhYFg",
     "fF"]),
  (["joincontrol", "joinc"],
    ["mdOB"]),
  (["logicalorderexception", "loe"],
    ["fkIEeTEedSCCAccxMBCABB"]),
  (["lowercase", "lower"],
    ["dTZbVAKAEAbKXBHBABABABABABABABABABABABABABABABABABABABABABABABABABABABBBABABABABABABABBBABA",
     "BABABABABABABABABABABABABABABABABABABABABACABABCCABACADBEACADCCACABABACABBBACADABACBCCGACAC",
     "ABABABABABABABABBBABABABABABABABABBCABADABABABABABABABABABABABABABABABABABABABABABABABABABA",
     "BABABABGCACBBAEABABABABcQBbJHBbEEdSAbRABADACDSAbBbIBBDCBABABABABABABABABABABABEBACACBbZbVBA",
     "BABABABABABABABABABABABABABABABAJABABABABABABABABABABABABABABABABABABABABABABABABABABACABAB",
     "ABABABABBBABABABABABABABABABABABABABABABABABABABABABABABABABABABABABABABABABABABABABABABABA",
     "BABABABABABABAbWbOehBbQBDbdGFdfUIBAeNhJcNABABABABABABABABABABABABABABABABABABABABABABABABAB",
     "ABABABABABABABABABABABABABABABABABABABABABABABABABABABABABABABABABABABABABABABABABABABABABA",
     "BABABABIBABABABABABABABABABABABABABABABABABABABABABABABABABABABABABABABABABABABABABABABABAB",
     "ABABABABABABABIIFKHIHIFKHIHINCHIHIHIEBBGADCBBIDCBIHKCBBeRANAQMeFADBDAbBAEAEACBIDEAbHPEAbgLZ",
     "ctQbVBADBBABABAEABBBHDABABABABABABABABABABABABABABABABABABABABABABABABABABABABABABABABABABA",
     "BABABABABABABABABABABABABABABBHABAEAMbLBAFAbtwDABABABABABABABABABABABABABABABABABABABABABAB",
     "ATABABABABABABABABABABABABABCfDABABABABABABCBABABABABABABABABABABABABABABABABABABABABABABAB",
     "ABABABABABABABJBABACABABABABAEABACABCBABABABABABABABABABAFAFABABABABABABABAEABACADABABABABA",
     "BAWCBABCbfPbQBNGdBbeaIGMEboZZbvHbNfGbJfZKBOBGBBrJACCBbPBIbxLbYeVVegObFbgjWbFbmmKZbAGBRbAZbA",
     "DBABGBKbAZbAZbAZbAZbAZbAZbAZbAZbAbBbCYBFbAYBFbAYBFbAYBFbAYBFBAcsYJBTGFkBcJdhSbH"]),
  (["math"],
    ["bRAQCbFAbDABAbTAEAbLAbFAbcACCAbABCCuHCjwNAbBCLADANAODVELEcNMEADBEESAEACJBACFGADBCBBCBFDNBAc",
     "QXBFBBEBEbFBAGBOkHIDUBdMAbEbABAYALGrDBMJEFEBCBDEOABACFLHFBcFABAbDDJCmYcLjWtRbWUCFdasQAbfRFB",
     "AgGAQCbDABAbDABAfBAGDfeFBcxdWdGBcSBBCACBCDBLBABGBcMBDCHBGBbBBDBEBADGBnBClFCbXiiQDBbABBBACAB",
     "JBDBABAGAEABABABCBBBACABABABABABBBACDBGBDBDBABJBQFCBEBQcAB"]),
  (["noncharactercodepoint", "nchar"],
    ["dsdCbFuGBdsyOBdsyOBdsyOBdsyOBdsyOBdsyOBdsyOBdsyOBdsyOBdsyOBdsyOBdsyOBdsyOBdsyOBdsyOBdsyOB"]),
  (["patternsyntax", "patsyn"],
    ["bHOKGbADBAbADbIGBABBBABBEAEADAXAbFAluEXIOCSBJlTbbRgEyFbEbrNtSeXoVCEYPAczqZBkBB"]),
  (["patternwhitespace", "patws"],
    ["JESAdWAlyMBYB"]),
  (["quotationmark", "qmark"],
    ["bIAEAfBAPAlwUHZBfiDArPDNCdabPDhHAEAdMB"]),
  (["radical"],
    ["rpWZBdKMiF"]),
  (["regionalindicator", "ri"],
    ["hgoKZ"]),
  (["sentenceterminal", "sterm"],
    ["bHAMAQAcaBAfRCgYAbRCjMAcJABADBlHBcpWBbeKAEBbdTAhQBgBBbTAFAmCBnQDgGBKBCBbDChFBcNBbjWAXBJCeuX",
     "ClUANAWBqNAbshWAkKBiTADAoSBdIBdRAfWBfRCfOBjPAbfcWACBcHADBgNAMAQAcNAedWBbxDEbSDhHBeNDeXCeZBG",
     "AQBdKBBBeEAlMBeNBoJBFOeBBjPCtXABAjRBdJBqEBbaQBcWBbcmBBfDAcNBLAvHBlKAbdoGAliMA"]),
  (["softdotted", "sd"],
    ["eBBhOAkVAbEAcAAUAmIAdUABAjmNAbZANADAfCAgBAqFAiGBegGAgelHBbYBbYBbYBbYBbYBbYBbYBbYBbYBbYBbYBb",
     "YBdfYAlTBbAA"]),
  (["terminalpunctuation", "term"],
    ["bHAKABALBDAbfYAIAtTAcFAcUAOABCgYAbRKBAjBBcCFBHbFAkBBbwUBgQAEFlZBbeJHbdTAeUCcTBgBCDAbNDCBmCB",
     "nQDgGBKBBCbDChFEcKBbjWAXBJCeuXClUANAEAKABBDBqMBbshVBkJCiTEoSBdIBdRAfVCfRCeXAQBjPAbfcWACBcFC",
     "BDgNAKABALBDAcNACAbpQAbWAbsOAhRAlYBfWFcQFdLDbkQEbSDhHGeIDeXCeZBGAQBdKEeEAlMBeNCMBnUDDOeBBjP",
     "CtXABAjRBdJBEBpYCbTAyVBcWBbyXEbamZBfDAcNCKAvHBlJBbdoGAliLD"]),
  (["unifiedideograph", "uideo"],
    ["tsAjtNcMbfbJbicSBBABBKABABBCCdveCclfBbGgdTGiNCinPOlbKPxXgrQhhYFgfF"]),
  (["uppercase", "upper"],
    ["cNZdXWBGbHABABABABABABABABABABABABABABABABABABABABABABABABABABABACABABABABABABABACABABABABA",
     "BABABABABABABABABABABABABABABABABABABBBABADBBABBBCCDBBBCDBBBBABABBBACABBBCBABBDAHACACACABAB",
     "ABABABABABACABABABABABABABABACACABCBABABABABABABABABABABABABABABABABABABABABABABABABABABABA",
     "BAHBBBCABDBABABABAlDABADAIAGABCBABBBQBIbJACCDABABABABABABABABABABABAFACABBCbYbWABABABABABAB",
     "ABABABABABABABABABABAJABABABABABABABABABABABABABABABABABABABABABABABABABABABBBABABABABABACA",
     "BABABABABABABABABABABABABABABABABABABABABABABABABABABABABABABABABABABABABABABABABABABABABAB",
     "ABACbLehDbLBAFAbbUdHdgLAGbQCCmIABABABABABABABABABABABABABABABABABABABABABABABABABABABABABAB",
     "ABABABABABABABABABABABABABABABABABABABABABABABABABABABABABABABABABABABABABABABABABABABABAJA",
     "BABABABABABABABABABABABABABABABABABABABABABABABABABABABABABABABABABABABABABABABABABABABABAB",
     "ABABAJHIFKHIHIFLABABABAIHcUDMDMDMELDkCAEADCCCCADEGABABABDCDKBFAbAPTAbfMZcsUbVbWABCCABABABDB",
     "ACAICBABABABABABABABABABABABABABABABABABABABABABABABABABABABABABABABABABABABABABABABABABABA",
     "BABABABABABAIABAEAbtyJABABABABABABABABABABABABABABABABABABABABABABATABABABABABABABABABABABA",
     "BABAfFABABABABABABADABABABABABABABABABABABABABABABABABABABABABABABABABABABABABABAKABABBBABA",
     "BABAEABACABADABABABABABABABABABABEBEBABABABABABABABDBABBDAFABABABAYAbhaHZbuZbNfGbJgAKBOBGBB",
     "cqCbYgBVegObFbgjWbFbmmQZbAZbAZbAABBCACBCDBHbAZbABBDCHBGbBBBDBEBADGbBZbAZbAZbAZbAZbAZbEYbHYb",
     "HYbHYbHYbHAgnLbHdbIZGZGZ"]),
  (["variationselector", "vs"],
    ["jcTCBAdjcAPbwnkYjF"]),
  (["whitespace", "wspace", "space"],
    ["JESAdWAbAAihJAdpNKbDBFAbVAfxWA"]),
  (["xidcontinue", "xidc"],
    ["bWJHZEABZbVAKABACAFWBbEBrPELOEHABAReMBBDCBAGEBABTBdEBfIBECgJBbLCAGbOIbSBABBBBBAIbAEDbDKFcVE",
     "dXBHCJBSCAQcGCdWOcBEACACbTSbBEKFXBFIcWBeYCJBSBHCBCVBGBADDCICBCDIAEBBECLKABACCBFEBCVBGBBBBBB",
     "CABEEBCCDAHDBAHPLCBIBCBVBGBBBECJBCBCCAPDCJJGBCBHCBCVBGBBBECICBCCHCEBBECJBAQBBFDCBDDBBABBDBD",
     "CDLEEDCBDCAGAOJQMBCBWBPCIBCBDHBBCCACDCJQDBHBCBWBJBECIBCBDHBGBBDCJBCMMBCBbYBCBEFDHECJKFBCBRD",
     "XBIBACGDAEFBABHGJCBNcFFOBJbNBBABEBXBABWCEBABGBJCDbGAXBGJLABABAEJBbJETBRBbJJAcFcVGcZCbLBAFAC",
     "bQBmUBDCGBABDCbOBDCbGBDCGBABDCOBcEBDCcOCCJIOPQdHCFDxVCQBZFcWDKHVJVLTMMBCBBMdFDAEBCJbHCBKGdK",
     "HbQFcRKbEBLELKbNCELbREZGKbLbBEcKBbCCKGJNAINBPbXcYDJRIMeLMcDIJDbWCKFbQCCQCBbMFuNCFCbLCFCHBAB",
     "ABABbECcABGBADCBGDDCFEMFCBGPBbXBTAbCANAQMbZMEADLRAEACJBACFGABABABPCDFEEARbOdzBiUGIMbLBAFACc",
     "DHAPXJGBGBGBGBGBGBGBGBbFtXCZOBECEEdHCBCCBdQFbQBdPRbFbWPtSjtNcMbguEcPbTCkIDbBUbVEJBeKbLICdYC",
     "cOCBBABHVcBEATbZMcRKJGXDABbWCbJMbCDcMOKGbEBcCJNCJGWDcUYCCPCEKFCFCFJGBGBbQBNGeSBBCJGqnRMWEbW",
     "mnCoBCeBbMGMEFLBMBEBABBBBBeDbHfIGiJScLCcBbOJGPQPDBYCbHABADABABABABeVTJHZEABZKdLDFCFCFCCbJLB",
     "ZBSBBBOCNbIeScRcAfGAfAbCDbWPAbFbFNbDFbQFbDCbJEHBEbQgBCJGbJEbJEbNIbZMKBOBGBBBKBOBGBBDbZMlYJV",
     "KHYFBbPBIcRFCABbRBBDACWKWJbEcNSBBKVKZcScDGBcMDBBFHBCBbCCCEAbGbCDbCbJHBbDZcBKVKSNReGcUcDbYNb",
     "YNbNIJGbLDEBWjQbPBBDBQCcDbGKAIbGbFVbQUbBWJcSbFPJcHHANYHJGcABJEDIbJCAJcQEDBMBAbJRBbKGDcKGBAB",
     "DBOBJHcGFJGDBHCBCVBGBBBEBJCBCCCAGAFGCGDELJBACABbLBJBACABDBHNBbDcWFJEDbEcRBAIJgKcBCIXFbIcMDA",
     "LJbMcEHJGTbCbACOEJGGhDcGdXcVVHCACHBBBbDBBCIMJcSHCbTCHBBbBcKIAIcVDAScUhRbGPJGIBbSBIPJYbDCVBN",
     "cVGBBBbRDABBBIIJGFBBBbKBBBFHJlYWJQBbODENKdHAdBbjLdYeGRhNdxKdSPbpFQVKfxQFwKkdDcFcoSvWHbEBJGd",
     "ABJGbDCELcCJDMJJUFSqQbSDJhQcLeYcWEcEHQcMBBBLBOjbZIbvPbPJnfRDBGBBBlEPAbDCCAODIpFdkUeCFMDIHJD",
     "BgeRJtYbTCWuWEDFIHCGbEDfSCrBdGBcSBBCACBCDBLBABGBcMBDCHBGBbBBDBEBADGBnBCYBYBbEBYBbEBYBbEBYBb",
     "EBYBHCbXtScCEbXIAOAWEBObqMbEGFiFGBQCGBBBEFcJbHAeIbSDNCJEAmJbERcFsCbPiGbQsRGBDBBBOBhOLGbPcXE",
     "JbtUDBbABBBACABJBDBABAGAEABABABCBBBACABABABABABBBACDBGBDBDBABJBQFCBEBQfaAJbnQclfBbGgdTGiNCi",
     "nPOlbKPxXdqWuVcfYhhYFgfFbonhGjF"]),
  (["xidstart", "xids"],
    ["cNZGZbVAKAEAFWBbEBrPELOEHABAeZEBBDCBAGABCBABTBdEBfIIgJBbLCAGbOcTbAEDbTbQbJBBdUBAPBHBKCCAQAB",
     "bDbDdKLAYbGJBEAFVEAJADAXYHKFXBFRbPcGcBDASAHJPPEHCBCVBGBADDDAQANBBCOBKAIFEBCVBGBBBBBBbFDBATC",
     "QIBCBVBGBBBEDASAPBXALHCBCVBGBBBEDAbEBBCPARABFDCBDDBBABBDBDCDLWAcAHBCBWBPDAbACCACBbEAEHBCBWB",
     "JBEDAbFBBBPBRIBCBbOCAQAFCICYFFRDXBIBACGcGbVBANGcGBBABEBXBABJBAKACEBAVDbGAcLHBbJbBEeLbQUAQFE",
     "DDADBHCEMMARbLBAFACbQBmUBDCGBABDCbOBDCbGBDCGBABDCOBcEBDCcObLPQdHCFDxVCQBZFcWDKHRNSOROMBCPbZ",
     "bJAEAcPdKHbOBAFcRKbEbXbDCELbREZcCWJcAdEAdPbURHcCbDNBKbRbAbJbPCKbJCKFbQCCbPDBFBBDAFhJcMkRCFC",
     "bLCFCHBABABABbECcABGBADCBGDDCFEMFCBGeMANAQMdXAEACJBACFGABABABPCDFEEARbOdzBiUGDDBMbLBAFACcDH",
     "AQWJGBGBGBGBGBGBGBGvECZIHECEEdHGCBdLBDFbQBdPRbFbWPtSjtNcMbguEcPbTCkIDPKBUbUQbECdBbNICdYCcOC",
     "BBABHVPBCBDBWbDbZObXcKFDABBLbBKWZbCHbUbCAQEBJKEBbOXCBHUWDADbXBADBCECABAYCCKHCMFCFCFJGBGBbQB",
     "NGeKbDqnRMWEbWmnCoBCeBbMGMEFABJBMBEBABBBBBeDbHfIGiJScLCcBbOJePABADABABABABeVbKZGZLcDCbEDFCF",
     "CFCCbJLBZBSBBBOCNbIeScRcAkHbCDbWbVbFNbDFbLKbDCbJEHBEbQgBSbJEbJEbNIbZMKBOBGBBBKBOBGBBDbZMlYJ",
     "VKHYFBbPBIcRFCABbRBBDACWKWJbEcNSBBKVKZcScDGBcMAPDBCBbCbQbCDbCbJHBbBbBcBKVKSNReGcUcDbYNbYNbJ",
     "bMbBJWjQbPGBQCcHbCKAIVbQRbUUbBWMcAcFBCANbSbGYbAbJbDACAIbIDAMbVODVABAbJRBYTBcLGBABDBOBJHbUbM",
     "HCBCVBGBBBEDASAMEbEJBACABbLBAZABAbScASDUCbEbVUBBAhCbUbPDbKbVUAcHbQNAcTbAbLGhDbReMcLbFHCACHB",
     "BBXPABAdQHCbMQABAbCAKbNHAVALbTTAScUhRbGbFIBbKRAbXbDeIGBBBbLVAZFBBBbFOAmPSPABMBbHeUAdBbjLdYe",
     "GRhNdxKdSPbpFRFZfxQFwKkdDbDcpUvWHbERdARbDSbVQDbFUFSqQbSiDcLeYcWFAcOMcMBBAbCjbZIbvPbPJnfRDBG",
     "BBBlEPAbDCCAODIpFdkUeCFMDIHJiwKdGBcSBBCACBCDBLBABGBcMBDCHBGBbBBDBEBADGBnBCYBYBbEBYBbEBYBbEB",
     "YBbEBYBHcsYbEGFkBcJfQbSKGQAmJbDSbRsQbBiUbDCAtBGBDBBBOBhOcHcPHAbuIDBbABBBACABJBDBABAGAEABABA",
     "BCBBBACABABABABABBBACDBGBDBDBABJBQFCBEBQgoAclfBbGgdTGiNCinPOlbKPxXdqWuVcfYhhYFgfF"]),
  (["hyphen"],
    ["bTAeXAbvWAgzZAdbDBfiBAbcLAczuLAgNAdJA"]),
  (["idcompatmathcontinue"],
    ["gWBFAmaGADKBOoHAEAWAgjjEAZAbFAZAbFAZAbFAZAbFAZA"]),
  (["idcompatmathstart"],
    ["mwWAEAWAgjjEAZAbFAZAbFAZAbFAZAbFAZA"]),
  (["idsunaryoperator", "idsu"],
    ["seOB"]),
  (["modifiercombiningmark", "mcm"],
    ["ckIBCAfBAGADBsNBBCDAbFA"]),
  (["prependedconcatenationmark", "pcm"],
    ["chCFiHAbXAoUBdCAdvxYAPA"])]

end DocCheck.Character
