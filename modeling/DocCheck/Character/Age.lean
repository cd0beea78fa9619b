/-!
# Ages of characters

The age of a character is the version of the standard that first assigned it. Each entry gives the
names of a version, and the characters that it brought as run lengths.

* `Character.ageTable` — the versions, the oldest first.
-/

namespace DocCheck.Character

/-- The characters that each version brought. -/
def ageTable : List (List String × List String) := [
  (["v11", "1.1"],
    ["AtHEbDcEdKHbUBJWcRbABSBEADAFGBABTBbRBGDABABABABRNLBcNBLBbOJcACBCBDbBCHCBcDbLCGBbMBAbMJBIMbA",
     "FEXAOADABZFSNNCcTCEBOBbDCJtZCBcACRCEDYQCBHCBCVBGBADDCABGCBCCJAEBBECUHACFEBCVBGBBBBBBCABEEBC",
     "CLDBAHOMCBGBABCBVBGBBBECJBCBCCAPAFJRCBHCBCVBGBBCDCHDBCCIBEBBCEKRBBFDCBDDBBABBDBDCDHBCEEDCBD",
     "JAPLOCBHBCBWBJBEEGBCBDHBJBEJSBBHBCBWBJBEEGBCBDHBHABBEJSBBHBCBWBPEFCCBDJAIBEJfPcFEbCbLBBACBB",
     "ACAGDBGBCBABACBBMBCCEBABFCJCBrIbLKbMEAEdLFcPFdDeoKfYFdLGVCFCbLCFCHBABABABbECcABOBNCFBSCCBIB",
     "bUBWbJGDbARKbLRbEcEbAbVNdMVjHOABeQfDbKbBKVfIVfTKdBQTGdHfPDBDCbBBbIBABDDABGCGObEDXBNddHcDHAB",
     "dFEFCdPGbNEdPBPdSbCDbJbCbBDbXPLEbUBeOEdUCbEjwBbexXyjQjxTiCGMEGYBEBABBBBBeDbHoAQcLCcBbOLbKDM",
     "UEJBSBDECBABfECABdPCdPDFCFCFCCDGBGOC"]),
  (["v20", "2.0"],
    ["ccVQBMUAdmXcTBbGHbAEFBABUDGBAfqNAuHAcatWqnReifYBdsyOBdsyOBdsyOBdsyOBdsyOBdsyOBdsyOBdsyOBdsy",
     "OBdsyOBdsyOBdsyOBdsyOhlxH"]),
  (["v21", "2.1"],
    ["mjSAdgoTA"]),
  (["v30", "3.0"],
    ["tIDbEHCReNEbXAKEdJITAeMADABABABAbEAMAcOAMAbQBCDdOBgAAhSCdUBFAPAbQEBNBbDDbAcBbWcfHBBRDXBIBAC",
     "GDAEFBABHSCoJAbRAXCHABCBOCAbWbHBEBBBGDDGZqGGBcKBABDCGBABDCbMBABDCbEBABDCGBABDCGBGBWBbEBABDC",
     "GBbMBSGbBbJdGMyFJbCDdCfNdODJWOBJGdJIbPcwBAYFdRCbYBdHBcUAdZIkJAeRABbDfIBrPHbHAdIBpIjVccEZBdK",
     "MiFbALcICDAnPXwMjtDbfeGbsUDRCPBLBCBAbgsCAbvVC"]),
  (["v31", "3.1"],
    ["bmYBdqqCbFbxWbEBDMbAgZbLCbLczdQjLKbMDgXvAdGBcSBBCACBCDBLBABDBBBcMBDCHBGBbBBDBEBADGBmZElDEbX",
     "pdWcleSbetDuVbpcqTAbEdR"]),
  (["v32", "3.2"],
    ["uYAlQATMeABbCAfRBcFBCBCBbXPnMBmJAdnHBchJMBGLWJTMMBCBBdiXAGEEAHENAcKBbYGdEOgMLjINeUAbEbZkYTf",
     "VJdKHWBdMLCJiONdMbBEPjWtRbzNCdJBIBdQAjGPdDOdDObrdIBQAMADAbgjAcGbjDADPcBBbSAjBB"]),
  (["v40", "4.0"],
    ["uZASCePBcLQdCHFCfVEtWDJIcMCfTBPAbTCbDCqUAhCAcPABAfGAdGCNAcPAcHAeZHhLBefNASJkCbCDLELEADbPCEe",
     "DbFbdOeDbcPBiWAzJBlQAkQBeMHOBbrANcrNBbXAbRBdADgLDdVBbFAjtOcLcoqVAcVBqXLBZBSBBBOCNbIeSFCEbSD",
     "IwEbDBAfEBbMdBCJbgWFCABbRBBDACAcyuIdInYAbtkdAjF"]),
  (["v41", "4.1"],
    ["vVKkSEgDDjMBgOAbICcPASAcGFjHbDuHAdCAsTAbVAbmNBlJBBAkGAcLAcLAbNAbFAbFAbFAPAbNAXBbFZcgCbPGZGJ",
     "EBbGbBCBbgMdJzHBBGbXEbDDcBAdCAPAyUKwAAdXBSKFPkKGbgHFjCbUBbUbHeCObSKcBJAQWJGBGBGBGBGBGBGBGbH",
     "XEBbjUPgSAbpiTVctOWiZbRbfeAeBbfQJbfAcWuNbJENciSDBBFHBCBbAECEIIIcxpVcRbrAB"]),
  (["v50", "5.0"],
    ["wGNlNCmZAbQFQDgKAtXcGoUBBBbhIBNBfiJcXEbSwLGbZBbcUDdPBcBAxBLbbMAkQDbgJGFDmEMHDbulJDFBlAcDbko",
     "MZFAirGbhUfPdUNDcogIRbqUB"]),
  (["v51", "5.1"],
    ["bhWDCBdJAhBAfKPiSELEbGElQRtDBiOAbJAhYAbDBeEAeEAbABIBUHhHAGAbDBMFDGsXBdTADCcZAFACAHCEFbAcLEB",
     "dbEAbbXbQDLcScDDODbYmTbBgZDdMFnSAfJAdQAcBDbyAAVJDDkEAbFDbfFEEbODEkUCBCEFnQbFYDCSbdKAgGTbppO",
     "HbzOlNUbFCRIbBfBECeCeGEeYcQJLbMdFLAgEcCJNCJCDbfsUCbhPLcAbTfAbCDbWckDZFAcxsJAlrQbREdV"]),
  (["v52", "5.2"],
    ["byQBbcCbTCOhLAcZAGAbJBeYAcfPDhLDhGEcQEdEFtSAyGIvOcRgYBbUAcRcKBbCCKGJGNvAbIkGAbaUCfVCcCAxIAb",
     "aRBbDCEJBSBAEXdJAbnHEkSANBeDGmHAboCLbplSHbxKbVqAdJmAJgKbBdWbCDcZBKEBeYbBEcOYEiQbTCJqoKWEbWn",
     "bBCfgCVBIhEBmMbFeYcBDbCCbAFHeYcUuPbEtTcNlvQbpEctnDKFbECALABACADADEIAHAZABBCAKDCAeHAPbHOIcql",
     "JgdO"]),
  (["v60", "6.0"],
    ["bySBjOAcKAsMbBCAiLBTAGBbBEtMFqRAQATAwBDcVBbiOBdeNbZIDtOAzOHbCAbfJKbcCATABDbDAEBbCAbJABAECJB",
     "cACYAOAOBcdKAOAbpOCbseNBlNBBBOJdCAbdUFCFCFJGBGbemTPhrIcZEbDbheEvWbalBBymGOCNCOBOdCABKBABBBC",
     "BCFHBGBJGIBACBBJEBBJcXZBBbVIVBgSbGPFBcRDTMbKBEVQPcKBABgZBDDcJSXfREBPBCBABABABCBFCDBACDBLEKb",
     "WcRcGeLcuqMiN"]),
  (["v61", "6.1"],
    ["ccTAeMAzRABKcDbAtDAbmRBsTAFAbVCebBCMFjWHbRDecQABAbyQBbZAFAcEBhUJbraEAcnNHbJAjIBWAcZBbcOWbdz",
     "ZBfuUcDGBcrOYHJGcABNcIcUHJbtUcDIJbhkOcQLbUQQbvwIDBbABBBACABJBDBABAGAEABABABCBBBACABABABABAB",
     "BBACDBGBDBDBABJBQFCBEBQcAByIBblSDhGAQADABABABADAGBEABBEA"]),
  (["v62", "6.2"],
    ["mkGA"]),
  (["v63", "6.3"],
    ["ciEAjyVD"]),
  (["v70", "7.0"],
    ["biLAqIHdPBeOAzRALFcYAeQAHAyPAbZAcYAeXAiUJdkRHvCBpLOvXBjDObbHCbfQGbdTAbqICKZCbFCbHDLBHxUGbto",
     "VFjMLLCCBcRAsUbEeVDgUbVEBbfiVGbhDBTAmHbBbJAbWbQoZbNIbZLAfOlYJVKHjOcKIIrWbFbGbMELfHRHDMGbvJA",
     "iAbMdIAMAGTLRBbQeKcGFJHCBHCBCVBGBBBECICBCCJAFGCGDEkHcTIJgKcBCRcCcQLJwKdEMArGcEdfIbPhULFAbal",
     "FbEBJEBdSbDCFKcRKJBGBUFSbemAeCFMDIHJCHqkYhOCPczWAbGVVBuMLJAcSAWLbLAFDFLRGcTABAhAAEBcLBEGbDR",
     "BbOBdHcSBNbVcSJQMDDfKdGbRLEcDIJGbNIbD"]),
  (["v80", "8.0"],
    ["dhRBbUAuNAnOAkAAcmVACFevOAhVBdyEDbrwVIcoUAjGAbIFmMBxMDMdBbffQBebGSBBFEhGBCPCbTyQbYNbYHFbvDD",
     "OEgEGBABDBOBKdIAdBAyJTlEZDOEPerPAiWhNlqQwKcawLKchZzBPEBOjhDCdABdBEbKHjVAcXEjJBfJAwDIdZEcHAc",
     "ucLinP"]),
  (["v90", "9.0"],
    ["dhUHWObjPAhYAECBGXCfrZIoGAchBDdxCBbtzLAkSAbhqDBbeVbJEbJfaOArHdLBABAtUMccXIBbSBNKbCDbFCVBNbf",
     "mVAbFjbOTbdAbgfLGBQCGBBBEdiZcWFJEBddBRfMAbfYAbPAlOBbHCvAFBHIACLBLEObMM"]),
  (["v100", "10.0"],
    ["deMKpLBjSFtSAcGBfyWAjUDbbHAbfZAczAAyCEbcMAbpxNUblpICiqQcTIbZCWBExHGBBBbRDABBBIIJbfgPAyhKkYd",
     "DpFyaEFbrPBbIBtZLTAIHBBZASMbMFcEWdcpDlbK"]),
  (["v110", "11.0"],
    ["caYAbNAdYAuFCiDAlMAePApHAeXAenRAboHbQCCfrMCWYEOwPEbcIAbpyHEcyHAIBmMBbkvCBSAbaTbNIJrMbNIbPoH",
     "AeOCtGAlEAbaXAiVcHxLAbbEFBBBbKBBBFHJlYYbeaPdMjpIEbcjUTeWGjlWcPbsCAceZAiLDoICbCECDDABDYKNJHB",
     "bKYdSN"]),
  (["v120", "12.0"],
    ["esTAuGACACABFEAHAHBCANAfkHAfpUAcBAwTAbtzMFCEbjRBbmbGWbrKAxCAbcPHCbTCKgDBbzMbXNAhqUIwjKFEAbV",
     "IdMBjcWFprCCRDsaQbSDNCJEBoEcFFAcjZAbkNcIbpEAcbGAbKAiVLlDCbVAbXAJAbPFDBKFDHCCbWdFbCDECFCNF"]),
  (["v121", "12.1"],
    ["tiDA"]),
  (["v130", "13.0"],
    ["diCJzDAqOAeUAfaJBgjUAbaUCbhOEkpIJbfdGMcySDbQBcBAbfVDbgqQAewXbPBCCBjUbBoPAfEBzAAFBbtMGCACHBB",
     "BbDBBCLJJckKAbejRALBkfXsObQIblwUCdPCcJAbyUBbJBqTBdMAdXAEBbQBGCbDAgMAODPSHGJCNGbPfQBcCbLJcms",
     "JGbhtQhhY"]),
  (["v140", "14.0"],
    ["ciFAwWbEBBGHVASKbhPAbGAeXAdwHAHAJAjFAbaNNeVAbWByLAbbHAeiOAbVAtFKbraTCcyIBOBBABEYCbftDAoRPeX",
     "AbUBcvGKBOBGBBBKBOBGBBrJFBbPBIcxXZiWFcYAcgSAfEGbhPPhwYdUwdXdABJbaeWDBGBBlCDliBbTCWJeLvDBeyV",
     "bEbhXbEbzDGBDBBBOfqKCkMApCAdEAgSBbSDKDICRCGHIGcncPBgeVD"]),
  (["v150", "15.0"],
    ["exNAsGAdtaKCbfZCdiCJbnAQBbODbBhxDAJbCbvhKAbIAmrATerHFkBcJbHAbpWbPguCAfVCEEdLAzRCPBbKCLCBAOB",
     "KBMAOBcthOAbiwSgfF"]),
  (["v151", "15.1"],
    ["seMDtBAkeiQxX"]),
  (["v160", "16.0"],
    ["dgPAhcGBbVAkFBcwYCffEBbsqVCMCbjoLbZctWbLDbCIBlUCcDAbsLJBACABbLBJBACABDBJBBIBbcVTbvWbHOJbhGA",
     "hyZfxQkzTcFeoKcFlyJAxwIjPGqTitObQEAhcCJEBrNAFAbUAHAVACAJAiRbK"])]

end DocCheck.Character
