import DocCheck.Character.Set

/-!
# Joining of letters

In scripts such as Arabic letters take a shape that joins them to their neighbours.

* `Character.joinsNext`, `Character.joinsPrevious` — the letters that join to one side;
* `Character.transparent` — the marks that may stand between two joined letters.
-/

namespace DocCheck.Character

/-- The letters that join to the letter behind them. -/
def joinsNext : CharSet :=
  .ofRuns
    ["ciIAFABABEEMBGBBbJBJOSbLBBJABABBbOCCASCFDBIBABABBbFKDOCDBACCCFcWbGdIECABJBAKABDCAbDACESJFBC",
     "FBOfuCAYdKObHBAccjTbYblfXEIAFJBCKDfPABADCBBBACAbCBmZbHBApZBeDCBQMCbCDCLbUABBEACBBBBACAFBdeh",
     "YbH"]

/-- The letters that join to the letter before them. -/
def joinsPrevious : CharSet :=
  .ofRuns
    ["ciIABbDBJbJBBCFdMBAYBKCCAQABbDbDbYcWbGdHYHABDBDFSDACFRMBbAfuCAYdKObHBAccjTbXblfYFBABBDIBJCA",
     "GEfORXFnAbIpYCeDUMDbBRbUABEBHBDEBdehZbH"]

/-- The marks that do not keep letters around them from joining. -/
def transparent : CharSet :=
  .ofRuns
    ["bdOcLCADIBbFkPGkDbSBABBBBBAcUKbWUQAdXGCFCBBDbJAbEbAdNKcGIJAYDBIBCBEbRCcHIbQXBbFcDABAEHEADGK",
     "BbDAcGAEDIAUBbAACBcFAEBEBCCDAbEBDALBcFAEEBBEAUBWFBAcGACABDIAHBLBbEAcJAMAbYADAcDABCFCBDHBLBb",
     "DAcGACAGAFBUBbCBcFBEDIAUBbDAcUAHCBAdMACGMHdUACILGcVBbBABABAcDBBAFEBABCBBFFBDBDBDBDBDBLBCJAd",
     "YDBFBBCBZBECQDNACBGAPAbbBCbkKCbDBbEBbEBcPGIACKJAgLBbIAeOCEBJAGCiLBCAcGABGBABACHGJCAbWbEbXDb",
     "WABEBAFAbOIMBbGDCBBCcEABBDABCcGHCBfWCBMBGEAGADBhQcLbbSbGeoCCfLAdSbFvIDeDBbsqEDBJbGBdCBkMADA",
     "EAZBFAfVBbARNAbMHZKbUCbWACDCBbNAcPFCBCBMAIAbVAbZABCCBFBBAbQBIAjEACAEAbdzSAbdPPblLAiSAfTEcmG",
     "CBBFDbOCEAgJBwBDcNEmFBdBDcSKbXDeTAcCObPACBKCbXDCBHAcJCbKEBHcKAMBcAIKDCAdRCCABBGACAgBADHVBcF",
     "BDAbLGDEcSFNABABAOBdHHCCBAXAdGFBAEBBBjEDGBBBbBBdHHCABBeCABACFBAdXCCDBEjZIBBjWBBAEAfODCBEAbG",
     "JbOFCDIAJFCCbUMBBpQGBFBAdEVCGBBBBeSFDABBBGBAcUBDABAnJBLBcAEFABAXAhxTAGOqyYLDCdsAEcHGboIAcLD",
     "dDAbdbKBgyZbTCWuYCRHCGbEDfSCcyDcCEbXIAOAWEBOcaIGBQCGBBBEdWAgEGoLAcJDtODjUBbcIGeFH"]

end DocCheck.Character
