/-!
# Breaks

A text breaks into clusters, which readers see as one character, into words and into sentences. For
each of the three, every character has a role that says where a break may stand beside it. Each
entry gives the names of a role in lower case without separators, and the characters with the role
as run lengths. Characters in no entry have no special role.

* `Character.clusterTable`, `Character.wordTable`, `Character.sentenceTable` — the roles.
-/

namespace DocCheck.Character

/-- The roles of characters in clusters. -/
def clusterTable : List (List String × List String) := [
  (["cr"], ["NA"]),
  (["cn", "control"], ["AJBBBRdRbGNAcbMAguRAdaQACBYGbXPdghJAjGLtuAPbzqUDhwXHbtkzLbFdSeXjGfiL"]),
  (["ex", "extend"],
    ["bdOeHkPGkDbSBABBBBBAcUKbWUQAdXGCFCBBDbJAbEbAdNKcGIJAYDBIBCBEbRCcHIbQXBbFcDABAEHEADGKBbDAcGA",
     "BACDIAJAKBbAACBcFAEBEBCCDAbEBDALBcFAEEBBEAUBWFBAcGABBBDIAHCKBbEAcHABAMAJAbOADAcDABCFCBDHBLB",
     "bDAcGACBBADCBDHBLBbCBcFBBACDIAJAKBbDAcUAEACCBAIAdDACGMHdUACILGcVBbBABABAcDNBEBBFKBbJJAdYDBF",
     "BBCBZBECQDNACBGAPAbbBCbkKDbCCbDBbEBcMBBGIACKJAbTCBAeNBbIAeOCEBJAGCiLBCAcGABGBABACHGJCAbWbEb",
     "XDbWJECbMIMBbGDCFcEABBDABEcEHCBfWCBMBGEAGADBhQcLuEAhNbGeoCCfLAdSbFvIFeBBbsqEDBJbGBdCBkMADAE",
     "AZBFAfVBbARNAbMHZKBAbSCbWACDCBCAbKAcPFCBCBMAIAbVAbZABCCBFBBAbQBIAjEACAEAbdzSAbcJPQPoCBxHAiS",
     "AfTEcmGCBBFDbOCEAgJBwBDcNEmFBdBDcSKbXDeTAcCObPACBKCbXDCBHAcJCbKEBHcKAMBcAIBAIDCAdRCCDGACAgB",
     "ADHVBcFBBABAMAJAOGDEcPACFBACABCECBAOBdHHCCBAXAdDACFBACABBBBjBACDGBBBbBBdHHCABBeCABACHdXABAC",
     "DBEjZIBBjLAKDEAfODCBEAbGJbOFCDIAJFCCbUMBBpQGBFBAdEVCGBBBBeSFDABBBGBAcUBDABAnJBLBcAEFCXAhxTA",
     "GOqyYLDCdsAEcHGboIAcLDdDALBbdaXBgyZbTCWuWEDFIHCGbEDfSCcyDcCEbXIAOAWEBOcaIGBQCGBBBEdWAgEGoLA",
     "cJDtODjUBbcIGeFGebGEbsxyUdReYjF"]),
  (["l"], ["glKdRcfoQbC"]),
  (["lf"], ["KA"]),
  (["lv"],
    ["cndOAbBAbBAbBAbBAbBAbBAbBAbBAbBAbBAbBAbBAbBAbBAbBAbBAbBAbBAbBAbBAbBAbBAbBAbBAbBAbBAbBAbBAbB",
     "AbBAbBAbBAbBAbBAbBAbBAbBAbBAbBAbBAbBAbBAbBAbBAbBAbBAbBAbBAbBAbBAbBAbBAbBAbBAbBAbBAbBAbBAbBA",
     "bBAbBAbBAbBAbBAbBAbBAbBAbBAbBAbBAbBAbBAbBAbBAbBAbBAbBAbBAbBAbBAbBAbBAbBAbBAbBAbBAbBAbBAbBAb",
     "BAbBAbBAbBAbBAbBAbBAbBAbBAbBAbBAbBAbBAbBAbBAbBAbBAbBAbBAbBAbBAbBAbBAbBAbBAbBAbBAbBAbBAbBAbB",
     "AbBAbBAbBAbBAbBAbBAbBAbBAbBAbBAbBAbBAbBAbBAbBAbBAbBAbBAbBAbBAbBAbBAbBAbBAbBAbBAbBAbBAbBAbBA",
     "bBAbBAbBAbBAbBAbBAbBAbBAbBAbBAbBAbBAbBAbBAbBAbBAbBAbBAbBAbBAbBAbBAbBAbBAbBAbBAbBAbBAbBAbBAb",
     "BAbBAbBAbBAbBAbBAbBAbBAbBAbBAbBAbBAbBAbBAbBAbBAbBAbBAbBAbBAbBAbBAbBAbBAbBAbBAbBAbBAbBAbBAbB",
     "AbBAbBAbBAbBAbBAbBAbBAbBAbBAbBAbBAbBAbBAbBAbBAbBAbBAbBAbBAbBAbBAbBAbBAbBAbBAbBAbBAbBAbBAbBA",
     "bBAbBAbBAbBAbBAbBAbBAbBAbBAbBAbBAbBAbBAbBAbBAbBAbBAbBAbBAbBAbBAbBAbBAbBAbBAbBAbBAbBAbBAbBAb",
     "BAbBAbBAbBAbBAbBAbBAbBAbBAbBAbBAbBAbBAbBAbBAbBAbBAbBAbBAbBAbBAbBAbBAbBAbBAbBAbBAbBAbBAbBAbB",
     "AbBAbBAbBAbBAbBAbBAbBAbBAbBAbBAbBAbBAbBAbBAbBAbBAbBAbBAbBAbBAbBAbBAbBAbBAbBAbBAbBAbBAbBAbBA",
     "bBAbBAbBAbBAbBAbBAbBAbBAbBAbBAbBAbBAbBAbBAbBAbBAbBAbBAbBAbBAbBAbBAbBAbBAbBAbBAbBAbBAbBAbBAb",
     "BAbBAbBAbBAbBAbBAbBAbBAbBAbBAbBAbBAbBAbBAbBAbBAbBAbBAbBAbBAbBAbBAbBAbBAbBAbBAbBAbBAbBAbBAbB",
     "AbBAbBAbBAbBAbBA"]),
  (["lvt"],
    ["cndPbABbABbABbABbABbABbABbABbABbABbABbABbABbABbABbABbABbABbABbABbABbABbABbABbABbABbABbABbAB",
     "bABbABbABbABbABbABbABbABbABbABbABbABbABbABbABbABbABbABbABbABbABbABbABbABbABbABbABbABbABbABb",
     "ABbABbABbABbABbABbABbABbABbABbABbABbABbABbABbABbABbABbABbABbABbABbABbABbABbABbABbABbABbABbA",
     "BbABbABbABbABbABbABbABbABbABbABbABbABbABbABbABbABbABbABbABbABbABbABbABbABbABbABbABbABbABbAB",
     "bABbABbABbABbABbABbABbABbABbABbABbABbABbABbABbABbABbABbABbABbABbABbABbABbABbABbABbABbABbABb",
     "ABbABbABbABbABbABbABbABbABbABbABbABbABbABbABbABbABbABbABbABbABbABbABbABbABbABbABbABbABbABbA",
     "BbABbABbABbABbABbABbABbABbABbABbABbABbABbABbABbABbABbABbABbABbABbABbABbABbABbABbABbABbABbAB",
     "bABbABbABbABbABbABbABbABbABbABbABbABbABbABbABbABbABbABbABbABbABbABbABbABbABbABbABbABbABbABb",
     "ABbABbABbABbABbABbABbABbABbABbABbABbABbABbABbABbABbABbABbABbABbABbABbABbABbABbABbABbABbABbA",
     "BbABbABbABbABbABbABbABbABbABbABbABbABbABbABbABbABbABbABbABbABbABbABbABbABbABbABbABbABbABbAB",
     "bABbABbABbABbABbABbABbABbABbABbABbABbABbABbABbABbABbABbABbABbABbABbABbABbABbABbABbABbABbABb",
     "ABbABbABbABbABbABbABbABbABbABbABbABbABbABbABbABbABbABbABbABbABbABbABbABbABbABbABbABbABbABbA",
     "BbABbABbABbABbABbABbABbABbABbABbABbABbABbABbABbABbABbABbABbABbABbABbABbABbABbABbABbABbABbAB",
     "bABbABbABbABbABbA"]),
  (["pp", "prepend"], ["chCFiHAbXAoUBdCAbrNAdugKAPAjKBuFAcbLABAjOAcVFbaYArBA"]),
  (["ri", "regionalindicator"], ["hgoKZ"]),
  (["sm", "spacingmark"],
    ["dkTAcDACCIDBBbYBcHBGBCBcCAcGCcOAcGCIABBcBBcIAGBCBeKABBDCBCcACcJDcJBcGACABBbUAOBcHBFCBCcBBcY",
     "BGGTBcLAeXAfIBcLAgVAJBZBbSAcsVAHHBBnIDCCEBBFiQBcGABAVFfPAcFDcMAbEAEBcLACCBAcBHIBgPAVAcasHBC",
     "AdKBbYPfMAbWAbWBEBCBeHBCBYAgBACBFAjDBBBBBBAblxJABAeXAbTCEBeLAYBcHAbWCJAOAdPCDBgQCbFBcHABDCB",
     "CBVBdHBPABBdZCIBDAeDBGABBBACAjEBGDCAeJCIBBAeFABBeGAHAkBCJAjOEBBHABAfMCIDEAdGAbDBcKApRAOAeCA",
     "HACAiFEEBBAnMBMAbWBIByzACfjGcC"]),
  (["t"], ["grWdJcwxNbW"]),
  (["v"], ["gpCcTcwzWWcerCADD"]),
  (["zwj"], ["mdPA"])]

/-- The roles of characters in words. -/
def wordTable : List (List String × List String) := [
  (["le", "aletter"],
    ["cNZGZbVAKACABAFWBbEBsLGbHeIEBBCDBAGABCBABTBdEBfIIgJBbLCDBABbOBAeAAbSbQbJBBdUBAPBHBKCCAPBBbD",
     "bDdKLAYbGJBEAFVEAJADAXYHKFXBFRbPcGcBDASAHJPPEHCBCVBGBADDDAQANBBCOBKAIFEBCVBGBBBBBBbFDBATCQI",
     "BCBVBGBBBEDASAPBXALHCBCVBGBBBEDAbEBBCPARABFDCBDDBBABBDBDCDLWAcAHBCBWBPDAbACCACBbEAEHBCBWBJB",
     "EDAbFBBBPBRIBCBbOCAQAFCICYFFRDXBIBACGmBAcLHBbJbBEkPbLBAFACbQBmUBDCGBABDCbOBDCbGBDCGBABDCOBc",
     "EBDCcObLPQdHCFDxVCQBZFcWDKHRNSOROMBCgTdKHECbHBAFcRKbEiRWjEbURHcCbDNBKbRbAbJbPCKbJCKFbQCCbPD",
     "BFBBDAFhJcMkRCFCbLCFCHBABABABbECcABGBADCBGDDCFEMFCBGeMANAQMdXAEACJBADEGABABABDBKCDFEEARbObf",
     "HbZcrUiUGDDBMbLBAFACcDHAQWJGBGBGBGBGBGBGBGdCAsBAcBBhSbQBdPRbFbptObsUcPbTCkIDPKBUbUQbECdBYhP",
     "CBBABHVPBCBDBWbDbZObXcKFDABBLbBKWZbCHbUbCAbWbOXCBHfSKHCMFCFCFJGBGBcFGeKbDqnRMWEbWngUGMEcEdT",
     "bHnYScLCcBbOLeMEBfEbKZGZcRbEDFCFCFCCbJLBZBSBBBOCNbIeScRcAkHbCDbWbVbFNbDFbLKbDCbJEHBEbQgBSbJ",
     "EbJEbNIbZMKBOBGBBBKBOBGBBDbZMlYJVKHYFBbPBIcRFCABbRBBDACWKWJbEcNSBBKVKZcScDGBcMAPDBCBbCbQbCD",
     "bCbJHBbBbBcBKVKSNReGcUcDbYNbYNbJbMbBJWjQbPGBQCcHbCKAIVbQRbUUbBWMcAcFBCANbSbGYbAbJbDACAIbIDA",
     "MbVODVABAbJRBYTBcLGBABDBOBJHbUbMHCBCVBGBBBEDASAMEbEJBACABbLBAZABAbScASDUCbEbVUBBAhCbUbPDbKb",
     "VUAcHbQNAmPbReMcLbFHCACHBBBXPABAdQHCbMQABAbCAKbNHAVALbTTAScUhRbGbFIBbKRAbXbDeIGBBBbLVAZFBBB",
     "bFOAmPSPABMBbHeUAdBbjLdYeGRhNdxKdSPbpFRFZfxQFwKkdDbDcpUvWHbERdARbDSbVQDbFUFSqQbSiDcLeYcWFAc",
     "OMcMBBAbcvKeCFMDIHJiwKdGBcSBBCACBCDBLBABGBcMBDCHBGBbBBDBEBADGBnBCYBYBbEBYBbEBYBbEBYBbEBYBHc",
     "sYbEGFkBcJfQbSKGQAmJbDSbRsQbBiUbDCAtBGBDBBBOBhOcHcPHAbuIDBbABBBACABJBDBABAGAEABABABCBBBACAB",
     "ABABABABBBACDBGBDBDBABJBQFCBEBQyEZGZGZ"]),
  (["cr"], ["NA"]),
  (["dq", "doublequote"], ["bIA"]),
  (["extend"],
    ["bdOeHkPGkDbSBABBBBBAcUKbWUQAdXGCFCBBDbJAbEbAdNKcGIJAYDBIBCBEbRCcHIbQXBbGcCCBRBGKBbDCcEABGCB",
     "CCJAKBbAACCcEABEEBCCDAbEBDALCcEABHBCBCUBWFBCcEABGCBCCHCKBbEAcHEDCBDJAbOEcDABGBCBDHBLBbDCcEA",
     "BGBCBDHBLBPAMDcDBBGBCBDJAKBbDCcSAEFBABHSBcJACGMHdUACILGcVBbBABABAEBbXTBBFKBbJJAdWTXDECBCCGD",
     "DNLBAKDbbBCbkKDbCCbDBbEBcMbFJAbTCBAeNBbIAeOLELiLEcFJBbCCAbWbEbXEbVQbMIMCbEMcENbWTfWCBUEAGAC",
     "ChQcLuEAhNbGeoCCfLAdSbFvIFeBBbsqEDBJbGBdCBkMADAEAXEEAdFBbYRbARNAbMHZMbSDbVNbKAcPNMAIBbTCbYA",
     "BCCBFBBAbPEFBjCHBBbdzSAbcJPQPoCBxHAiSAfTEcmGCBBFDbOCEAgJBwBDcNEmFBdBDcSKbXDeSCcBObPACBKDbTK",
     "HAcJCbKNQBbSAMCbWNIDBBdOLGACAgBLVDcDBBGCBCCJAKBCGDEcPIBACABDBEBAOBdERXAdDTjBGCIbBBdEQeCMdXO",
     "jWOjLFBBCDBABBfLGCGDAbCJbOGBDIAJKbUPpPHBHdEVBNeSFDABBBGBAcOEBBBEnJDJBBAbWGDEXAhxTAGOqyYRdsA",
     "EcHGboIABcCHDdDALBbdaXBgyZbTCWuWEDFIHCGbEDfSCcyDcCEbXIAOAWEBOcaIGBQCGBBBEdWAgEGoLAcJDtODjUB",
     "bcIGeFGebGEbsxyUdReYjF"]),
  (["ex", "extendnumlet"], ["dRAmbFAPBTAdgaOBYCjFA"]),
  (["fo", "format"], ["gRAcbMAguRAdaTBbAEbXEBJdghJAjPCtuAPbzqUDhwXHbtkzMA"]),
  (["hl", "hebrewletter"], ["cfGbAEDdovYABJBMBEBABBBBBJ"]),
  (["ka", "katakana"], ["sgNEdXBDdMBDjGPiAbUBdJczhEcDcouCDBGBBBAlBCbYAOD"]),
  (["lf"], ["KA"]),
  (["ml", "midletter"], ["cGAeUAbbRAsDAfSAjxYAdgbBAcNAhOA"]),
  (["mn", "midnum"], ["bSAOAbgCAuCAfABdQApFAjfFAdfzVADAcHADAhBAOA"]),
  (["mb", "midnumlet"], ["bUAmcFBKAdgdPAgYAGA"]),
  (["nl", "newline"], ["LBeQAlzMB"]),
  (["nu", "numeric"],
    ["bWJceWFdMJBAeJASJhQJhQBdCAfBJeOJeOJeOJeOJeOJeOJeOJeOJeOJdSJeOJcSJkSJcSJctQJbMJlOJeYJgKJGJhA",
     "JdIJfEJGJcaeOJbaCJbMJhQJWJdIJpQJbfmCJccKJdfYJGJbeQJcZAPAbIJcIJfOJkSJnEJeOJoKJdYJGTcYJqGJdYJ",
     "zMJdIJjMJcSJqGJyyGJdmCJdIJfEJuOJbkdYJecQbXdnCJqGJtIJjNJbgVJhbAJ"]),
  (["ri", "regionalindicator"], ["hgoKZ"]),
  (["sq", "singlequote"], ["bNA"]),
  (["wsegspace"], ["bGAimHAdpNGBCdGAfxWA"]),
  (["zwj"], ["mdPA"])]

/-- The roles of characters in sentences. -/
def sentenceTable : List (List String × List String) := [
  (["at", "aterm"], ["bUAmcRAdgdPAhFA"]),
  (["cr"], ["NA"]),
  (["cl", "close"],
    ["bIAECbXABAbDABAbTAPAfmSDcuNBdpJHZBKBcCBOByJDbDBbpGFHNdBBbFJpNVcLDbGBbnMNOBCJYASHqLJCHBCczrQ",
     "BiHBbCPCBQFgNBbXABAbDABABBBBdpoSC"]),
  (["ex", "extend"],
    ["bdOeHkPGkDbSBABBBBBAcUKbWUQAdXGCFCBBDbJAbEbAdNKcGIJAYDBIBCBEbRCcHIbQXBbGcCCBRBGKBbDCcEABGCB",
     "CCJAKBbAACCcEABEEBCCDAbEBDALCcEABHBCBCUBWFBCcEABGCBCCHCKBbEAcHEDCBDJAbOEcDABGBCBDHBLBbDCcEA",
     "BGBCBDHBLBPAMDcDBBGBCBDJAKBbDCcSAEFBABHSBcJACGMHdUACILGcVBbBABABAEBbXTBBFKBbJJAdWTXDECBCCGD",
     "DNLBAKDbbBCbkKDbCCbDBbEBcMbFJAbTCBAeNBbIAeOLELiLEcFJBbCCAbWbEbXEbVQbMIMCbEMcENbWTfWCBUEAGAC",
     "ChQcLuEBhMbGeoCCfLAdSbFvIFeBBbsqEDBJbGBdCBkMADAEAXEEAdFBbYRbARNAbMHZMbSDbVNbKAcPNMAIBbTCbYA",
     "BCCBFBBAbPEFBjCHBBbdzSAbcJPQPoCBxHAiSAfTEcmGCBBFDbOCEAgJBwBDcNEmFBdBDcSKbXDeSCcBObPACBKDbTK",
     "HAcJCbKNQBbSAMCbWNIDBBdOLGACAgBLVDcDBBGCBCCJAKBCGDEcPIBACABDBEBAOBdERXAdDTjBGCIbBBdEQeCMdXO",
     "jWOjLFBBCDBABBfLGCGDAbCJbOGBDIAJKbUPpPHBHdEVBNeSFDABBBGBAcOEBBBEnJDJBBAbWGDEXAhxTAGOqyYRdsA",
     "EcHGboIABcCHDdDALBbdaXBgyZbTCWuWEDFIHCGbEDfSCcyDcCEbXIAOAWEBOcaIGBQCGBBBEdWAgEGoLAcJDtODjUB",
     "bcIGeFGbtcaFdReYjF"]),
  (["fo", "format"], ["gRAcbMAjIAglIAdaQACBbAEbXEBJdghJAjPCtuAPbzqUDhwXHbtkzMA"]),
  (["lf"], ["KA"]),
  (["lo", "lower"],
    ["dTZbVAKAEAbKXBHBABABABABABABABABABABABABABABABABABABABABABABABABABABABBBABABABABABABABBBABA",
     "BABABABABABABABABABABABABABABABABABABABABACABABCCABACADBEACADCCACABABACABBBACADABACBCCGACAC",
     "ABABABABABABABABBBABABABABABABABABBCABADABABABABABABABABABABABABABABABABABABABABABABABABABA",
     "BABABABGCACBBAEABABABABcQBbJHBbEEfKABADACDSAbBbIBBDCBABABABABABABABABABABABEBACACBbZbVBABAB",
     "ABABABABABABABABABABABABABABAJABABABABABABABABABABABABABABABABABABABABABABABABABABACABABABA",
     "BABABBBABABABABABABABABABABABABABABABABABABABABABABABABABABABABABABABABABABABABABABABABABAB",
     "ABABABABABAbWbOeiTAbdJFdfUIBAeNhJcNABABABABABABABABABABABABABABABABABABABABABABABABABABABAB",
     "ABABABABABABABABABABABABABABABABABABABABABABABABABABABABABABABABABABABABABABABABABABABABABA",
     "BIBABABABABABABABABABABABABABABABABABABABABABABABABABABABABABABABABABABABABABABABABABABABAB",
     "ABABABABIIFKHIHIFKHIHINCHIHIHIEBBGADCBBIDCBIHKCBBeRANAQMeFADBDAbBAEAEACBIDEAbHPEAbgLZctQbVB",
     "ADBBABABAEABBBHDABABABABABABABABABABABABABABABABABABABABABABABABABABABABABABABABABABABABABA",
     "BABABABABABABABABABABABBHABAEAMbLBAFAbtwDABABABABABABABABABABABABABABABABABABABABABABATABAB",
     "ABABABABABABABABABABABCfDABABABABABABCBABABABABABABABABABABABABABABABABABABABABABABABABABAB",
     "ABABABABJBABACABABABABAEABACABCBABABABABABABABABABAFAFABABABABABABABAEABACADABABABABABAWCBA",
     "BCbfPbQBNGdBbeaIGMEboZZbvHbNfGbJfZKBOBGBBrJACCBbPBIbxLbYeVVegObFbgjWbFbmmKZbAGBRbAZbADBABGB",
     "KbAZbAZbAZbAZbAZbAZbAZbAZbAbBbCYBFbAYBFbAYBFbAYBFbAYBFBAcsYJBTGFkBcJdhSbH"]),
  (["nu", "numeric"],
    ["bWJceWFdMJBBeIASJhQJhQBdCAfBJeOJeOJeOJeOJeOJeOJeOJeOJeOJdSJeOJcSJkSJcSJctQJbMJlOJeYJgKJGJhA",
     "JdIJfEJGJcaeOJbaCJbMJhQJWJdIJpQJbfmCJccKJdfYJGJbeQJcZAPAbIJcIJfOJkSJnEJeOJoKJdYJGTcYJqGJdYJ",
     "zMJdIJjMJcSJqGJyyGJdmCJdIJfEJuOJbkdYJecQbXdnCJqGJtIJjNJbgVJhbAJ"]),
  (["le", "oletter"],
    ["rBAEDiAAbKGGLbAABAfDAsQAeObAEEbSbQbJBBdUBAPBHBKCCAQABbDbDdKLAYbGJBEAFVEAJADAXYHKFXBFRbPcGcB",
     "DASAHJPPEHCBCVBGBADDDAQANBBCOBKAIFEBCVBGBBBBBBbFDBATCQIBCBVBGBBBEDASAPBXALHCBCVBGBBBEDAbEBB",
     "CPARABFDCBDDBBABBDBDCDLWAcAHBCBWBPDAbACCACBbEAEHBCBWBJBEDAbFBBBPBRIBCBbOCAQAFCICYFFRDXBIBAC",
     "GcGbVBBMGcGBBABEBXBABJBBJACEBAVDbGAcLHBbJbBEeLbQUAQFEDDADBHCEMMAcNbQCmTBDCGBABDCbOBDCbGBDCG",
     "BABDCOBcEBDCcObLPeJxVCQBZFcWDKHRNSOROMBCPbZbJAEAcPdKHECbHBAFcRKbEbXbDCELbREZcCWJcAdEAdPbURH",
     "cCbDNBKbRbAbJbPCKbJSbQCCbPDBFBBDAbpQDcTCCDekTcDHAQWJGBGBGBGBGBGBGBGdCAsBCZIHECEEdHGCBdLBDFb",
     "QBdPRbFbWPtSjtNcMbguEcPbTCkIDPKBcOAQAbGdBbNIeAAGAdZADGBCBDBWbDbZObXcKFDABBLbBKWZbCHbUbCAQEB",
     "JKEBbOXCBHUWDADbXBADBCECABAYCCKHCMFCFCFJGBGfPbIbDqnRMWEbWmnCoBCeBcPABJBMBEBABBBBBeDbHnYScLC",
     "cBbOLeMEBfEeBcDCbEDFCFCFCCbJLBZBSBBBOCNbIeScRcAkHbCDbWbVbFNbDFbLKbDCbJEHBEeScZdUbNIbZdObZMl",
     "YJVKHZBeVFCABbRBBDACWKWJbEcNSBBKVKZcScDGBcMAPDBCBbCbQbCDbCbJHBbBbBcBKVKSNReGcUhBbJbMFbFAkMb",
     "PGBQCcHbCKAIVbQRbUUbBWMcAcFBCANbSbGYbAbJbDACAIbIDAMbVODVABAbJRBYTBcLGBABDBOBJHbUbMHCBCVBGBB",
     "BEDASAMEbEJBACABbLBAZABAbScASDUCbEbVUBBAhCbUbPDbKbVUAcHbQNAcTbAbLGhDbRiDHCACHBBBXPABAdQHCbM",
     "QABAbCAKbNHAVALbTTAScUhRbGbFIBbKRAbXbDeIGBBBbLVAZFBBBbFOAmPSPABMBbHeUAdBbjLdYeGRhNdxKdSPbpF",
     "RFZfxQFwKkdDbDcpUvWHbERdARbDSbVQDbFUFSqQbSpNcWFAcOMcMBBAbCjbZIbvPbPJnfRDBGBBBlEPAbDCCAODIpF",
     "dkUeCFMDIHJnbCAtHbSKGQAmJbDSbRsQbBiUbDCAtBGBDBBBOBhOfEAbuIDBbABBBACABJBDBABAGAEABABABCBBBAC",
     "ABABABABABBBACDBGBDBDBABJBQFCBEBQgoAclfBbGgdTGiNCinPOlbKPxXdqWuVcfYhhYFgfF"]),
  (["sc", "scontinue"], ["bSBMBbgCAsKAgSBsWAgbXAFAdbEBgaUAdaaWBBBbCBbDBCBCAKAgMBMBcUA"]),
  (["st", "sterm"],
    ["bHAbDAcaBAfRCgYAbRCjMAcJABADBlHBcpWBbeKAEBbdTAhQBgBBbTAFAmCBnQDgGBKBCBbDChFBcNBbkUBJCeuXClU",
     "ANAWBqNAbshWAkKBiTADAoSBdIBdRAfWBfRCfOBjPAbfcWACBcLBgNAbDAcNAedWBbxDEbSDhHBeNDeXCeZBGAQBdKB",
     "BBeEAlMBeNBoJBFOeBBjPCtXABAjRBdJBqEBbaQBcWBbcmBBfDAcNBLAvHBlKAbdoGAliMA"]),
  (["se", "sep"], ["fDAlzMB"]),
  (["sp"], ["JABBTAeXAihJAdpNKbKAbVAfxWA"]),
  (["up", "upper"],
    ["cNZdXWBGbHABABABABABABABABABABABABABABABABABABABABABABABABABABABACABABABABABABABACABABABABA",
     "BABABABABABABABABABABABABABABABABABABBBABADBBABBBCCDBBBCDBBBBABABBBACABBBCBABBDAHBBBBBBABAB",
     "ABABABABABACABABABABABABABABACBBABCBABABABABABABABABABABABABABABABABABABABABABABABABABABABA",
     "BAHBBBCABDBABABABAlDABADAIAGABCBABBBQBIbJACCDABABABABABABABABABABABAFACABBCbYbWABABABABABAB",
     "ABABABABABABABABABABAJABABABABABABABABABABABABABABABABABABABABABABABABABABABBBABABABABABACA",
     "BABABABABABABABABABABABABABABABABABABABABABABABABABABABABABABABABABABABABABABABABABABABABAB",
     "ABACbLehDbLBAFAbbUdHdgLAoKABABABABABABABABABABABABABABABABABABABABABABABABABABABABABABABABA",
     "BABABABABABABABABABABABABABABABABABABABABABABABABABABABABABABABABABABABABABABABABABAJABABAB",
     "ABABABABABABABABABABABABABABABABABABABABABABABABABABABABABABABABABABABABABABABABABABABABABA",
     "JHIFKHIHIFLABABABAIHYHIHIHIELELDMELEkBAEADCCCCADEGABABABDCDKBFAbAPTAbfMZcsUbVbWABCCABABABDB",
     "ACAICBABABABABABABABABABABABABABABABABABABABABABABABABABABABABABABABABABABABABABABABABABABA",
     "BABABABABABAIABAEAbtyJABABABABABABABABABABABABABABABABABABABABABABATABABABABABABABABABABABA",
     "BABAfFABABABABABABADABABABABABABABABABABABABABABABABABABABABABABABABABABABABABABAKABABBBABA",
     "BABAEABACABADABABABABABABABABABABEBEBABABABABABABABDBABBDAFABABABAYAbhaHZbuZbNfGbJgAKBOBGBB",
     "cqCbYgBVegObFbgjWbFbmmQZbAZbAZbAABBCACBCDBHbAZbABBDCHBGbBBBDBEBADGbBZbAZbAZbAZbAZbAZbEYbHYb",
     "HYbHYbHYbHAgnLbHdbIZGZGZ"])]

end DocCheck.Character
