import DocCheck.Character.Set

/-!
# Directions of characters

The direction in which a character takes part in a line of text. The sets below hold the characters
that may stand in names; all others of these run from left to right.

* `Character.Direction` — the directions;
* `Character.direction` — the direction of a character.
-/

namespace DocCheck.Character

/-- How a character takes part in the direction of a line. -/
inductive Direction where
  /-- A letter of a script written from left to right. -/
  | left
  /-- A letter of a script written from right to left. -/
  | right
  /-- A digit that is written within text from right to left. -/
  | arabicNumber
  /-- A digit that keeps its order within text of either direction. -/
  | europeanNumber
  /-- A mark that goes along with the character before it. -/
  | mark
  /-- A character without a direction of its own. -/
  | neutral
  deriving DecidableEq

/-- The letters of scripts written from right to left. -/
def rightSet : CharSet :=
  .ofRuns
    ["ceOABACACAJbAEFTACABANABbTbICBDEdOPBHBKTCABbDbDdKLAObQJBEADXEAJADAHOBYFABKFbERbPdnzSQbaMAdq",
     "AFCABbRBBDACWBcTIIbWSBBFbGEZFAcMcDETCbUPDBCBbCKIHIHcLbGbKGLJcBKVCbAFZHDMGdCcUePbYHbPbCPbFWI",
     "BjGbPDACBQCcHbNIVLIWREDbMbBUWddvDhOCIdEbHHAEJEBbeFcPcYcI"]

/-- The digits that are written within text from right to left. -/
def arabicNumberSet : CharSet :=
  .ofRuns
    ["ckUJBBdvnFJlIbE"]

/-- The digits that keep their order within text of either direction. -/
def europeanNumberSet : CharSet :=
  .ofRuns
    ["bWJcoCJdrkHbA"]

/-- The marks that go along with the character before them. -/
def markSet : CharSet :=
  .ofRuns
    ["bdOcLCADIBbFkPGkDbSBABBBBBAcUKbWUQAdXGCFCBBDbJAbEbAdNKcGIJAYDBIBCBEbRCcHIbQXBbFcDABAEHEADGK",
     "BbDAcGAEDIAUBbAACBcFAEBEBCCDAbEBDALBcFAEEBBEAUBWFBAcGACABDIAHBLBbEAcJAMAbYADAcDABCFCBDHBLBb",
     "DAcGAPBUBbCBcFBEDIAUBbDAcUAHCBAdMACGMHdUACILGcVBbBABABAcDBBAFEBABCBBFFBDBDBDBDBDBLBCJAdYDBF",
     "BBCBZBECQDNACBGAPAbbBCbkKCbDBbEBbEBcPGIACKJAgLBbIAeOCEBJAGCiLBCAcGABGBABACHGJCAbWbEbXDbWABE",
     "BAFAbOIMBbGDCBBCcEABBDABCcGHCBfWCBMBGEAGADBhQcLbbSbGeoCCfLAdSbFvIDeDBbsqEDBJbGBdCBkMADAEAZB",
     "FAfVBbARNAbMHZKbUCbWACDCBbNAcPFCBCBMAIAbVAbZABCCBFBBAbQBIAjEACAEAbdzSAbdPPblLAiSAfTEcmGCBBF",
     "DbOCEAgJBwBDcNEmFBdBDcSKbXDeTAcCObPACBKCbXDCBHAcJCbKEBHcKAMBcAIKDCAdRCCABBGACAgBADHVBcFBDAb",
     "LGDEcSFNABABAOBdHHCCBAXAdGFBAEBBBjEDGBBBbBBdHHCABBeCABACFBAdXCCDBEjZIBBjWBBAEAfODCBEAbGFCBb",
     "OFCDIAJFCCbUMBBpQGBFdGVCGBBBBeSFDABBBGBAcUBDABAnJBLBcAEFABAXAhxTAGOqyYLDCdsAEcHGboIAcLDdDAb",
     "dbKBgyZbTCWuYCRHCGbEDfSCcyDcCEbXIAOAWEBOcaIGBQCGBBBEdWAgEGoLAcJDtODjUBbcIGeFG"]

/-- The characters without a direction of their own. -/
def neutralSet : CharSet :=
  .ofRuns
    ["AIFNFOKGbAFbAEbHGBABBBABBEBDADAXAbFArHBHNCFGBFIBQeNAeYApNACCeOBBBBABBdMAeLAKAkIDtKBHAjLAjXH",
     "eVGrGAjQDbqOJdYAzQBmGAUJGKlXADBfWbHchOBCABEBLDAICCACDBABHDMBGcNHBXcPADALACBFBDABABABAEALAGD",
     "FDcIBEfZCACjNCKcRZBfRWKgErGBnAjWkHBdYDdWBfUCbFBeAiVFOGjWdPbIZBDBdEkKABBDYPAGAFCdSAdMAhObLko",
     "GcLbguIcCmOCdVAKBeYbHdYAgDDMBcGDbdABbezQReXAbTCcRBbaWAcKcYDMDAcvUAuRGvMAbcLTcgWMdoQbCbehCAb",
     "iwZiFbQqTbfPBVcNDAhEdIfyEAenOBkKbREdVMOCOBOBbKVEbFAcJCcJAgWFfYblVEQDMDeOEdQGLEAPLEcDIJGbNIb",
     "DCLEBcKnBMNCMDJFcDHOCKGIHfQBdN"]

def direction (c : Char) : Direction :=
  if rightSet.mem c then .right
  else if arabicNumberSet.mem c then .arabicNumber
  else if europeanNumberSet.mem c then .europeanNumber
  else if markSet.mem c then .mark
  else if neutralSet.mem c then .neutral
  else .left

end DocCheck.Character
