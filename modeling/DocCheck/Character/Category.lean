/-!
# General categories

Every character has one general category, such as capital letter or decimal digit. Each entry gives
the names of a category in lower case without separators, and its characters as run lengths.

* `Character.categoryTable` — the categories;
* `Character.categoryGroups` — the groups of categories that have names of their own.
-/

namespace DocCheck.Character

def categoryTable : List (List String × List String) := [
  (["lu", "uppercaseletter"],
    ["cNZdXWBGbHABABABABABABABABABABABABABABABABABABABABABABABABABABABACABABABABABABABACABABABABA",
     "BABABABABABABABABABABABABABABABABABABBBABADBBABBBCCDBBBCDBBBBABABBBACABBBCBABBDAHACACACABAB",
     "ABABABABABACABABABABABABABABACACABCBABABABABABABABABABABABABABABABABABABABABABABABABABABABA",
     "BAHBBBCABDBABABABAlDABADAIAGABCBABBBQBIbJACCDABABABABABABABABABABABAFACABBCbYbWABABABABABAB",
     "ABABABABABABABABABABAJABABABABABABABABABABABABABABABABABABABABABABABABABABABBBABABABABABACA",
     "BABABABABABABABABABABABABABABABABABABABABABABABABABABABABABABABABABABABABABABABABABABABABAB",
     "ABACbLehDbLBAFAbbUdHdgLAGbQCCmIABABABABABABABABABABABABABABABABABABABABABABABABABABABABABAB",
     "ABABABABABABABABABABABABABABABABABABABABABABABABABABABABABABABABABABABABABABABABABABABABAJA",
     "BABABABABABABABABABABABABABABABABABABABABABABABABABABABABABABABABABABABABABABABABABABABABAB",
     "ABABAJHIFKHIHIFLABABABAIHcUDMDMDMELDkCAEADCCCCADEGABABABDCDKBFAcJAdzGbVbWABCCABABABDBACAICB",
     "ABABABABABABABABABABABABABABABABABABABABABABABABABABABABABABABABABABABABABABABABABABABABABA",
     "BABABAIABAEAbtyJABABABABABABABABABABABABABABABABABABABABABABATABABABABABABABABABABABABABAfF",
     "ABABABABABABADABABABABABABABABABABABABABABABABABABABABABABABABABABABABABABAKABABBBABABABAEA",
     "BACABADABABABABABABABABABABEBEBABABABABABABABDBABBDAFABABABAYAbhaHZbuZbNfGbJgAKBOBGBBcqCbYg",
     "BVegObFbgjWbFbmmQZbAZbAZbAABBCACBCDBHbAZbABBDCHBGbBBBDBEBADGbBZbAZbAZbAZbAZbAZbEYbHYbHYbHYb",
     "HYbHAgnLbH"]),
  (["ll", "lowercaseletter"],
    ["dTZcGAbPXBHBABABABABABABABABABABABABABABABABABABABABABABABABABABABBBABABABABABABABBBABABABA",
     "BABABABABABABABABABABABABABABABABABABACABABCCABACADBEACADCCACABABACABBBACADABACBCCGACACABAB",
     "ABABABABABABBBABABABABABABABABBCABADABABABABABABABABABABABABABABABABABABABABABABABABABABABA",
     "BABGCACBBAEABABABABcQBbAhLABADADCSAbBbIBBDCBABABABABABABABABABABABEBACACBbZbVBABABABABABABA",
     "BABABABABABABABABABAJABABABABABABABABABABABABABABABABABABABABABABABABABABACABABABABABABBBAB",
     "ABABABABABABABABABABABABABABABABABABABABABABABABABABABABABABABABABABABABABABABABABABABABABA",
     "BAbWbOehBbQCCbdGFdfUIBAeNbRcLMBbHdYABABABABABABABABABABABABABABABABABABABABABABABABABABABAB",
     "ABABABABABABABABABABABABABABABABABABABABABABABABABABABABABABABABABABABABABABABABABABABABABA",
     "BIBABABABABABABABABABABABABABABABABABABABABABABABABABABABABABABABABABABABABABABABABABABABAB",
     "ABABABABIIFKHIHIFKHIHINCHIHIHIEBBGADCBBIDCBIHKCBBkOADBDAbBAEAEACBIDEAcBAebBbVBADBBABABAEABB",
     "BFFABABABABABABABABABABABABABABABABABABABABABABABABABABABABABABABABABABABABABABABABABABABAB",
     "ABABABABABBHABAEAMbLBAFAbtwDABABABABABABABABABABABABABABABABABABABABABABATABABABABABABABABA",
     "BABABABABAfFABABABABABABCBABABABABABABABABABABABABABABABABABABABABABABABABABABABABABABABHBA",
     "BACABABABABAEABACABCBABABABABABABABABABAFAFABABABABABABABAEABACADABABABABABAbAADAbfPbQFIHdB",
     "beaIGMEboZZbvHbNfGbJfZKBOBGBBcrBbYeVVegObFbgjWbFbmmKZbAGBRbAZbADBABGBKbAZbAZbAZbAZbAZbAZbAZ",
     "bAZbAbBbCYBFbAYBFbAYBFbAYBFbAYBFBAcsYJBTGFduDbH"]),
  (["lt", "titlecaseletter"],
    ["rLACACAbMAlfHHIHIHMAPAbVA"]),
  (["lm", "modifierletter"],
    ["baMRELOEHABAfDAFAsKAiWAgIBkJBEAbFAJADAgEAgLAbvOAeXAvTAcpMAeDAxNArWFgScKNAbIbKbaNANAQMemXBjH",
     "AhJAsBAbREFAdTBdPCbqbUAbwCFkKAeKAbCBeRIdCAXAeBCDBsBAWAfHAeEAVBdZDJAbfvIAbTBczOFBbPBIccXAbGA",
     "bjnSDtOCbOBvEMcMBBAygQDBGBBsgNcJhTGbkFAbrBA"]),
  (["lo", "otherletter"],
    ["gOAPAjWAEDiAAbfVbAEDbTbFBJbJBBdUBAYBKCCAQABbDbDdKLAYbGVVbQYHKFXBFRbOcHcBDASAHJQOEHCBCVBGBAD",
     "DDAQANBBCOBKAIFEBCVBGBBBBBBbFDBATCQIBCBVBGBBBEDASAPBXALHCBCVBGBBBEDAbEBBCPARABFDCBDDBBABBDB",
     "DCDLWAcAHBCBWBPDAbACCACBbEAEHBCBWBJBEDAbFBBBPBRIBCBbOCAQAFCICYFFRDXBIBACGcGbVBBMFcHBBABEBXB",
     "ABJBBJACEXDbGAcLHBbJbBEeLbQUAQFEDDADBHCEMMAeJmQBDCGBABDCbOBDCbGBDCGBABDCOBcEBDCcObLPeJxVCQB",
     "ZFcWGHHRNSOROMBCPbZbOAcPbIBcAHECbHBAFcRKbEbXbDCELbREZcCWJcAgUbURHcCbDNBKbRbAbJbPCKbDeJDBFBB",
     "DAbpQDenVcDYWJGBGBGBGBGBGBGBGvFAcBAEdHIABdLEAFbQBdPRbFbWPtSjtNcMbfcEBbrYcPbNIkHEPKBcOAbXcRg",
     "NAdZADGBCBDBWbDbZObXcKFDABBLbBKWZbCHbUbTECIKEBbOXCBHUPBFDADbXBADBCECABAYBDKHAOFCFCFJGBGfPbI",
     "bDqnRMWEbWmnCoBCeBcPABJBMBEBABBBBBeDbHnYScLCcBbOLeMEBfEeBJBbSCbEDFCFCFCCbJLBZBSBBBOCNbIeSoZ",
     "bCDbWbVbFNTBHGbLKbDCbJEHeYcZdUbNIbZdObZMlYJVKHfWFCABbRBBDACWKWJbEcNSBBKVKZcScDGBcMAPDBCBbCb",
     "QbCDbCbJHBbBbBcBKVKSNReGcUhBbJbMDBAlSbPGBQCcHbCKAIVbQRbUUbBWMcAcFBCANbSbGYbAbJbDACAIbIDAMbV",
     "ODVABAbJRBYTBcLGBABDBOBJHbUbMHCBCVBGBBBEDASAMEbEJBACABbLBAZABAbScASDUCbEbVUBBAhCbUbPDbKbVUA",
     "cHbQNAcTbAbLGhDbRiDHCACHBBBXPABAdQHCbMQABAbCAKbNHAVALbTTAScUhRbGbFIBbKRAbXbDeIGBBBbLVAZFBBB",
     "bFOAmPSPABMBbHeUAdBbjLiWhNdxKdSPbpFRFZfxQFwKkdDbDcpUvWHbERdARbDSbVbZUFSqTbNpPcWFAgTjbZIbvPb",
     "PJngHlEPAbDCCAODIpFdkUeCFMDIHJnbCAtHbSbHAmJbDSbRsQbAiVbDCAtBGBDBBBOBhObzNDBbABBBACABJBDBABA",
     "GAEABABABCBBBACABABABABABBBACDBGBDBDBABJBQFCBEBQgoAclfBbGgdTGiNCinPOlbKPxXdqWuVcfYhhYFgfF"]),
  (["mn", "nonspacingmark"],
    ["bdOeHkPEkFbSBABBBBBAcUKbWUQAdXGCFCBBDbJAbEbAdNKcGIJAYDBIBCBEbRCcHIbQXBbFcDABAEHEADGKBbDAcGA",
     "EDIAUBbAACBcFAEBEBCCDAbEBDALBcFAEEBBEAUBWFBAcGACABDIAHBLBbEAcJAMAbYADAcDABCFCBDHBLBbDAcGACA",
     "GAFBUBbCBcFBEDIAUBbDAcUAHCBAdMACGMHdUACILGcVBbBABABAcDNBEBBFKBbJJAdYDBFBBCBZBECQDNACBGAPAbb",
     "BCbkKCbDBbEBbEBcMBBGIACKJAbTCBAeNBbIAeOCEBJAGCiLBCAcGABGBABACHGJCAbWNBPbXDbWABEBAFAbOIMBbGD",
     "CBBCcEABBDABCcGHCBfWCBMBGEAGADBhQcLbbSMEADLeoCCfLAdSbFvIDeDBbsqEAEJbGBdCBkMADAEAZBFAfVBbARN",
     "AbMHZKbUCbWACDCBbNAcPFCBCBMAIAbVAbZABCCBFBBAbQBIAjEACAEAbdzSAbcJPQPblLAiSAfTEcmGCBBFDbOCEAg",
     "JBwBDcNEmFBdBDcSKbXDeTAcCObPACBKCbXDCBHAcJCbKEBHcKAMBcAIKDCAdRCCABBGACAgBADHVBcFBDAbLGDEcSF",
     "NABABAOBdHHCCBAXAdGFBAEBBBjEDGBBBbBBdHHCABBeCABACFBAdXABACDBEjZIBBjWBBAEAfODCBEAbGJbOFCDIAJ",
     "FCCbUMBBpQGBFBAdEVCGBBBBeSFDABBBGBAcUBDABAnJBLBcAEFABAXAhxTAGOqyYLDCdsAEcHGboIAcLDdDAbdbKBg",
     "yZbTCWuYCRHCGbEDfSCcyDcCEbXIAOAWEBOcaIGBQCGBBBEdWAgEGoLAcJDtODjUBbcIGeFGbtciVjF"]),
  (["mc", "spacingmark"],
    ["dkTAcDACCIDBBbYBcGCGBCBKAbRAcGCcOAcGCIABBcBBcGABAGBCBKAdYBBBDCBCKAbPCcJDcJBcGABECBBBJBbCAOB",
     "cGCFCBCKAbQBcXCGHSBmSBcLAgPBEAGACBZBKCCGVBCFCAKCclSAbEAeZAHHBBnIDCCEBBFiQBcGABAJABBIFfPAbWA",
     "FABEBBcJAbEAEBCAcIACCBADBbWHIBgPAVAhhEBbtlBBCAdKBbYPfMBbVAbWBEBCCeGBCBYAbTABAeFACBFAjDBBBBB",
     "BAblxJABAeXAbTCEBeLAYBcHAbWCJBNAdPCDBBAgOCbFBcGBBDCBCCJAKBdGCHACABDBBBAdXCIBDAeCCGABDCAjDCG",
     "DCAeJCIBBAeFABBGAdZABBEAkBCJAjNFBBEACABAfMCIDEAdGAbDBcKApRAOAeCAHACAiFEEBBAnMBMAbWBIBBAyyYC",
     "fjGcCeABbkxNBGF"]),
  (["me", "enclosingmark"],
    ["bsQBikQAciGDBCbyoXC"]),
  (["nd", "decimalnumber", "digit"],
    ["bWJciOJfEJhQJpWJeOJeOJeOJeOJeOJeOJeOJeOJeOJdSJeOJcSJkSJcSJctQJbMJlOJeYJgKJGJhAJdIJfEJGJcaeO",
     "JbaCJbMJhQJWJdIJpQJbfmCJccKJdfYJGJbeQJeYJcIJfOJkSJnEJeOJoKJdYJGTcYJqGJdYJzMJdIJjMJcSJqGJyyG",
     "JdmCJdIJfEJuOJbkdYJecQbXdnCJqGJtIJjNJbgVJhbAJ"]),
  (["nl", "letternumber"],
    ["irUCdyTbICDfmSAZIOCbsyLJbifGcArSAIAfEEmeSeG"]),
  (["no", "othernumber"],
    ["gWBFACCdmRFoMFeQCfDGiJGRIqRJbpLTbrVJsMAcmVADFGJhQPbPAbbYcHdAVyGbDcbHAbtCDfIJbEHBObGJbNObsmI",
     "FbhqNbScNDRBnDbAbKDbzGHZGbNIcXEWFgEBCPCbTcMIcABbECcXEeAHYHbPGmSFnObEgCJbQDeIGfEToPTbzXBqOIb",
     "hNSbgTUbcpQGbeSWblyFTMTeEYibUIbjTcGBCBDcYbSBOblAM"]),
  (["pc", "connectorpunctuation"],
    ["dRAmbVBTAdgaOBYCjFA"]),
  (["pd", "dashpunctuation"],
    ["bTAcaUAbZAfkJAbnPAdbDFfhXACAbFBEAbCArEATAeHAczwABbLAKAgNAflOAmGA"]),
  (["ps", "openpunctuation"],
    ["bOAbYAbFAfpEABAcuOAdpMADAbMAcDAPAyKABAbEAbpUABABABABABABAdCAbGABABABABApOABABABABABABABABAB",
     "ABAcMABAbHAboVABABABAZASABABABAqMABABABABADABABABACAczrTAiHAbDABABABABABABABADARABABAgOAbYA",
     "bFADACA"]),
  (["pe", "closepunctuation"],
    ["bPAbZAbFAfpDABAcuOAdrDAcDAPAyKABAbEAbpUABABABABABABAdCAbGABABABABApOABABABABABABABABABABAcM",
     "ABAbHAboVABABABAbSABABABAqMABABABABADABABABACBczrQAiJAbDABABABABABABABADARABABAgOAbZAbFACAC",
     "A"]),
  (["pi", "initialpunctuation"],
    ["gPAlxKACBCAZAffSABAEACAPADA"]),
  (["pf", "finalpunctuation"],
    ["hFAlwVADAbCAffSABAEACAPADA"]),
  (["po", "otherpunctuation"],
    ["bHCBCCABABBKBDBbBAcQAFAOBHAbbAAIArYFbPAcCACACAbSBUBBBNABCcWDdYAbRNiZCcCObFAkBBKAfKAeQAeRApA",
     "AMAoDAdMAKBgMOBAeIAcWEEBeHFgPAxOIbdTAeUCcTBgBCBCbLFBDmBBiIBeYGBFgEBKGbCCeUDcHEcKBcMHLAbgCBI",
     "HIICDCCDKBABJeuCDBBeIAfNBECCACIBBBACBKEBJCDBABMCCqMCcFAhHAbryGBkJCdVAKAeLFoQDdIBbOCBAbXBbVA",
     "dTMQBeUDeWBQBjPAbfcUGCAWAUBCDDCBDHCGABBfTCBCCABABBKBDBbBAbKACBpUCzSAbWApYAbcPAhRAbFAkMIbMAe",
     "IGcOGdLDbkQEbSDhHGeFBBDeWDbWBdBDEANABCdKFeDAlMBBBeKEKBBAeAAjQWeBCbCMcYAfACjSAkECfZAdOHdFCBE",
     "dPJiHAdREbQByVBcWMgTAbrSEejCBwdVBfDAcNEIAvGClJDmPAbdbOAliLEeiTAbhEB"]),
  (["sm", "mathsymbol"],
    ["bRAQCcJABAbTAEAbLAbFAbdMAuHCjyHANAbNCNCfJAbNEGAcQEFBEACACAHAbFBCABAbFkHbGBdMAbEYbOFsBAJAcCH",
     "eHAmYECbEKPjWfAWcKEbFCjXbWUCFdasQAbfSABCgIAQCcJABAfBAGDfeFBcyeZAZAbFAZAbFAZAbFAZAbFAZAiuEB"]),
  (["sc", "currencysymbol"],
    ["bKAeVDbwJAeTAtEBtEBHAjLAkDAwJAdqPAdiIbGbzhVAbgmLAeEAfYAiLBDBmcSDcvxEAdrKA"]),
  (["sk", "modifiersymbol"],
    ["dQABAcTAGAEADAuBDMNFGBABQeNAOBbxIAiuMABCLCNCNCNBghOBbsvRWJBdZBblOAOBbekKQbiHABAgGAdolJE"]),
  (["so", "othersymbol"],
    ["gKACAEABAblPAkGBeXBhYAKATBjNAtVAoJAfAFBAfCAhZAbPApBCPABCCFUABABAfDHBFBBFDhPBbcYJbbVAbbUAgBb",
     "HnPJJIccHBBDBBKABBGFBABABAEALBOABBBAcGBJECDBBBBBGBbECBBABbEkIHETCGCdCBbDZbNGcTWKdDcZWhABIBc",
     "BIeGBjNbSbRcMjVtSbVVBGbMCbFBeAiVFnTBbUZBdKMiFbAPEANBMAVBGBmYBEJbGbLJAQbELbDIAPbFKbMPmHjtOcL",
     "bguIcCbhHDKBBAwBCbfjAPeXAbTCsQADAEBNBmBIcFQCCBMDAbVbSclUBwTAesSAdgNHEQbcnIDFAbeuWAfvNjFQqTg",
     "AeLcIjLKbMCcHFCWBHbDEcIVcNDAhEdIbtXtRcDDbYHBNBBcoUAehWAeZAbbTbREdVMOCOBOBbKXgEcEbCNbREIHBOF",
     "fYjQFbbZEQDMDeOEdQGLEAPLEcDIJGbNIbDCLEBcKnBMNCMDJFcDHOCKGIHfQBdN"]),
  (["zs", "spaceseparator"],
    ["bGAeXAihJAdpNKbKAbVAfxWA"]),
  (["zl", "lineseparator"],
    ["meQA"]),
  (["zp", "paragraphseparator"],
    ["meRA"]),
  (["cc", "control", "cntrl"],
    ["AbFdRbG"]),
  (["cf", "format"],
    ["gRAcaKFWAhKAbXAoUBdCAftJAdaQEbAEbXEBJdghJAjPCgiZAPAnkKPbzqUDhwXHbtkzMAbEdR"]),
  (["co", "privateuse"],
    ["dgvOjmDcahxOdsyNCdsyN"])]

/-- The names of groups of categories, each with the short names of its categories. -/
def categoryGroups : List (List String × List String) := [
  (["l", "letter"], ["lu", "ll", "lt", "lm", "lo"]),
  (["lc", "casedletter"], ["lu", "ll", "lt"]),
  (["m", "mark", "combiningmark"], ["mn", "mc", "me"]),
  (["n", "number"], ["nd", "nl", "no"]),
  (["p", "punctuation", "punct"], ["pc", "pd", "ps", "pe", "pi", "pf", "po"]),
  (["s", "symbol"], ["sm", "sc", "sk", "so"]),
  (["z", "separator"], ["zs", "zl", "zp"])]

end DocCheck.Character
