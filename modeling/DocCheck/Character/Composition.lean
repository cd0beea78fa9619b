import DocCheck.Character.Set

/-!
# Compositions of characters

A letter and a mark may have a composed character of their own. Marks carry a class, by which marks
on one letter are put into order; all other characters have class zero.

* `Character.compositions` — the composed characters with their two parts;
* `Character.markClass` — the class of a character.
-/

namespace DocCheck.Character

/-- The compositions in groups: the second part, the number of compositions with it, and for each
the distance of its first part from the one before and the composed character. -/
def compositionRuns : List String :=
  ["bdOdGcNhKEhSEhWFtKBiCGiJCloIClsSIiQEiYEjCFtLBjIGjPCloJClsTbVmcJbAlpUIlqUKlrMIsHGlpVIlqVKlrNIs",
   "IGlqEBlqFPlkEBlkFcFlmMBlmNdFlrWBlrXOlsKBlsLsNmaKEmaYCmbACmbQGmcUGmcGEmcWIlxOElxQClxSClxUGlxWG",
   "lxYElyABmbIBmbYcWbnKDbnXbDbqMDbqZkdSltIBltJHltQBltRHltYBltZHluGBluHHluOBluPHluWBluXHlvEBlvFHl",
   "vMBlvNHlvUBlvVHlwCBlwDHlwKBlwLIlwTHlxABlxBHlxIBlxJdImbDcLmbTbdPeNcNhLCkCChTCtGChXCllGBmBBllUB",
   "mLBiDBlmQCnCBnICiKCloKCiNBoNHiRCkDCiZCtHCjDCllHBmCBllVBmMBjJBlmRCnDBnJCjQCloLCjTBoObUbiRbAlpS",
   "DtMBtOBljSDlqSFllEFlrKBlmIDtQEsDGlpTDtNBtPBljTDlqTFllFFlrLBlmJDtREsEGlqCBlqDPlkGBlkHcFlmOBlmP",
   "bBloABloBcDlrUBlrVOlsIBlsJsNbiSEbiUCbiVCbiWGbiYGbjAEbjBIbkEEbkFCbkGCbkHGblKGblLEblMBbjCBbkIHb",
   "lRcNbnNHbnWZbqPHbqYkdQltKBltLHltSBltTHluABluBHluIBluJHluQBluRHluYBluZHlvGBlvHHlvOBlvPHlvWBlvX",
   "HlwEBlwFHlwMBlwNIlwVHlxCBlxDHlxKBlxLdImbEcLmbUbdQbGcNhMCkEChUCkYBlGBhYBlWFiEEnKCiLCoICoKBloYH",
   "iSCkFCjACkZBlHBjEBlXFjKEnLCjRCoJCoLBloZlkWlqABlqBXlrABlrBTlrSBlrTbdRbCcNhNElqQElKFiBBiFGnWBlo",
   "EDlsYIiTElqRElLFjHBjLGnXBloFDlsZcVlpYIlqYKlrQOlpZIlqZKlrROlqIBlqJgBlsABlsBOlsOBlsPbdSbScNjWEk",
   "OClkQClMGmUGnYEvQIjXEkPClkRClNGmVGnZEvRcXsKCsOPvKBvIGsBIsLCsPPvLBvJGsCjEsYBsZcHsMBsNHvOBvPnQm",
   "aJImbPMmcFMmaBImbHMmbXdFbwCLbwOVbwDLbwPjvNllOBllPbJlmYBlmZbdUbGcNjYEkQClAClOGmWGoAMjZEkRClBCl",
   "PGmXGoBqTlkMBlkNnWmaIImbOMmcEMmaAImbGMmbWcXbvKFbvQBbuVCboJLbnYNbvLFbvRBbuWCbpPLbrAjzPlqKBlqLb",
   "dVbWcNvEBljMBkGBljUBkSBlkOBlCBlkSBlSEllWBlmABvMBlmSClmUBlnCBlnMDloOBloSBloWBoPHvFBljNBkHBljVB",
   "kTBlkPBlDBlkTFllXBlmBBvNBlmTClmVBlnDBlnNDloPBloTBloXBoQiQlnGBlnHFlnIBlnJbElpJkyLlnKBlnLdjqTdv",
   "dPIdveQbdWcCcNhOEhVDlkWBhZGiGGiMCloMBloUBoMIiUEjBDlkXBjFGjMFlpFBjSCloNBloVBjVdOlmKbGlmLeNloCB",
   "loDvMbkCMbkDUblIMblJNblScAbnRKbvMFbnLBbvWBbvYBbwEGbwGFbwQEbwUEbwYCbwMDbvNFbqNBbvXBbvZBbwFGbwH",
   "FbwREbwVEbwZCbwNJbqTfAbvUBbvVPbwKBbwLbdXYcNlpQElqOElrCGlrIGlsGElsWIlpRElqPElrDGlrJGlsHElsXcVl",
   "pWIlqWKlrOOlpXIlqXKlrPOlqGBlqHgBlrYBlrZOlsMBlsNbdYGcNhPUoCMiVUoDClpGClpHbdZGdBmYGoEbAmZGoFbkG",
   "bwSbGbwTbeAbLcNrTCkIBkKBkWCsSBuWBrVCsUBmFCmPBrXDnGBnOBnSBrZFoRHrUCkJBkLBkXCsTBuXBrWBtCBsVBmGC",
   "mQBrYDnHBnPBnTBsAFoSdUsFbGsGhFtAiLtBbeDOcNtSEtWEuAGuEDuIDuMMtTEtXEuBGuFDuJDuNbnJbrYBbrZbeFMcN",
   "tUEtYEuCGuGDuKDuOMtVEtZEuDGuHDuLDuPbeHObjDltOEluECluUClvKGlwAKlxGIltGEltWCluMClvCGlvSCmcAElwI",
   "ElwYbeIQbjDltPEluFCluVClvLGlwBCmcIElwRElxHIltHEltXCluNClvDGlvTCmcBElwJElwZbePEdBqAGqPbAqBGqQb",
   "eXbQcNlpOBljOCljWBlqMDlkUBlrECllIBllMBllYBlmCBlrGDlmWBlnEBlnOBlsEBloGBloQClsUBlpAHlpPBljPCljX",
   "BlqNDlkVBlrFCllJBllNBllZBlmDBlrHDlmXBlnFBlnPBlsFBloHBloRClsVBlpBlIlsCBlsDOlsQBlsRbeYCdHlnUbGl",
   "nVbeZCcNljKbGljLbfAEdFuQBuSbFuRBuTbfBWcPhRBlkABvGClEBlkYDlYBmDCmNEnEBnMBnQPiXBlkBBvHClFBlkZDl",
   "ZBmECmOEnFBnNBnRbfCKcNkAEkUElQGsWGoGMkBEkVElRGsXGoHbfHMcQlkCBlkIHllSClmGGlnSBlnYPlkDBlkJHllTC",
   "lmHGlnTBlnZbfICcUllAbGllBbfKGcRlkKEllCMlnWQlkLEllDMlnXbfLRcOljQCljYHllKBllQClmEElnAClnQGlpCIl",
   "jRCljZElpEDllLBllRClmFElnBClnRGlpDbfSbScInbABnaMBnbBmqCmsWCmsXCmtQcImuVCmuXCmuWbVmwYFmxDDmxGY",
   "myECmyGXmzHHmzKCmzNDmzPFnaZUnaODnbCBnbDNnbGBnbHDnbKBnbLDnbSBnbTBnfKBnfLFnbWBnbXDncABncBKnfMBn",
   "fNQndKGndLBndMCndNHnfUBnfVBnfWBnfXbgCbDgMmaRbdXmaGGmaWCmbMMmcCEmcSBmbNBmcDkhXltMBltNHltUBltVX",
   "luSBluTHlvABlvBHlvIBlvJHlvQBlvRXlwOBlwPIlwXHlxEBlxFHlxMBlxNdImbFcLmbVbgFcLbjDmaMGmbCSmcYDmaEC",
   "maUDmaDGmaTSmcPFmcQkhUlyEBlyFBlyGBlyHBlyIBlyJBlyKBlyLBlyMBlyNBlyOBlyPBlyQBlyRBlySBlyTRlyUBlyV",
   "BlyWBlyXBlyYBlyZBlzABlzBBlzCBlzDBlzEBlzFBlzGBlzHBlzIBlzJbXlzKBlzLBlzMBlzNBlzOBlzPBlzQBlzRBlzS",
   "BlzTBlzUBlzVBlzWBlzXBlzYBlzZBmaCEmaSImcOcGmaHQmaXbWmcTckHBciPciKckIGciPciLbHciMCciOePcoORcpFD",
   "coMckJBciPciNdmYDdmEdmFIdmNDdmQdrYBdsHdsLdsXBdsHdsMegSBehBehFehQBehBehCehRBehBehGelQCelYemCBe",
   "mDemPCejYekAcAemEerMBeqWeqYevQBevUevYewJDevNevOHevVEevZewKBevUevWfaKCfaSfaWBfaXfbJBfaSfaYffUC",
   "fgJfgKDfgNffZBfgJfgMfgPBfgJfgOgdIBgcZgdAkhXLkgBkgCCkgECkgGCkgICkgKEkgObPkiDCkiFCkiIBkiJDkiLsk",
   "NbWshIskIFshOCshQCshSCshUCshWCshYCsiACsiCCsiECsiGCsiICsiKDsiNCsiPCsiRHsiYDsjBDsjEDsjHDsjKbIsk",
   "SJsoAFslGCslICslKCslMCslOCslQCslSCslUCslWCslYCsmACsmCDsmFCsmHCsmJHsmQDsmTDsmWDsmZDsnCUsoDBsoE",
   "BsoFBsoGLsoKskOKsiXsiZDsjCDsjFDsjIDsjLdGsmRDsmUDsmXDsnADsnDdzhIDdzgBdzgCCdzgEKdzgTdzlNCdzlXdz",
   "lUBdzlVeagCBeagLeagPeahBBeagLeagQeakUBealEealJeakXBeaiUeaiVealECeajBeajEcDealHealLDeaiSeaiTOe",
   "ajHbYealKeauIBeauReauUeauSBeauReauTeauVBeauReauWebeDCebeMebeOBebePecmQBecmVecmYfdsWBfdsWfdsZf",
   "dsXEfdsWfdtBDfdtEBfdtFHfdtCfdsYCfdsWfdtDDfdtGfdtHBfdsWfdtAfijVDfijRfijXEfijWCfijY"]

/-- The compositions in a group list: the first part, the second part and the composed character. Of
the group for `second`, `left` compositions are still to come behind the one of `first`. -/
def compositionsFrom (second left first : Nat) : List Nat → List (Nat × Nat × Nat)
  | a :: b :: rest =>
    match left with
    | 0 => compositionsFrom a b 0 rest
    | left + 1 => (first + a, second, b) :: compositionsFrom second left (first + a) rest
  | _ => []

/-- Every composition: the first part, the second part and the composed character. -/
def compositions : List (Nat × Nat × Nat) :=
  compositionsFrom 0 0 0 (CharSet.readRuns compositionRuns)

/-- The marks of each class other than zero. -/
def markClassTable : List (Nat × List String) := [
  (1, ["bfOEjsDANGbmNBECKBDBdkjDAbkqGEbeyBAhwQC"]),
  (6, ["fjiUB"]),
  (7,
    ["dmYAeXAeXAeXAeXAjVAeXAbiGAeeEAgVAdCAcbpBAbnaKAhCAdIAeDAgWAdDBkFAeUAjSAjMAoWAkEAbnIAczgXA"]),
  (8, ["skNB"]),
  (9,
    ["dnPAeXAeXAeXAeXAeXAeXAeXAeFBQAeUAeHAeXAhTAgYBcpLBbEAgBAzDAiTAdXBcSBgqTAbukKAbLAfVAfMAeEAlXA",
     "jMAbjsRAchIAbPAOAcFAeRBfJAeMAgYAdUAeYCeJAeXAjSAeXAeOAeMAkJAjZBgFAdFASAdDAqFAkABdDAqJByzCA"]),
  (10, ["ceAA"]),
  (11, ["ceBA"]),
  (12, ["ceCA"]),
  (13, ["ceDA"]),
  (14, ["ceEA"]),
  (15, ["ceFA"]),
  (16, ["ceGA"]),
  (17, ["ceHA"]),
  (18, ["ceIAOA"]),
  (19, ["ceJB"]),
  (20, ["ceLA"]),
  (21, ["ceMA"]),
  (22, ["ceNA"]),
  (23, ["cePA"]),
  (24, ["ceRA"]),
  (25, ["ceSA"]),
  (26, ["drcOA"]),
  (27, ["cjZAbaAA"]),
  (28, ["ckAAbaAA"]),
  (29, ["ckBAbaAA"]),
  (30, ["ciAAcBA"]),
  (31, ["ciBAcBA"]),
  (32, ["ciCAcBA"]),
  (33, ["ckFA"]),
  (34, ["ckGA"]),
  (35, ["clKA"]),
  (36, ["crPA"]),
  (84, ["erLA"]),
  (91, ["erMA"]),
  (103, ["fkAB"]),
  (107, ["fkQD"]),
  (118, ["foYB"]),
  (122, ["fpOD"]),
  (129, ["fwBA"]),
  (130, ["fwCAHDCA"]),
  (132, ["fwEA"]),
  (202, ["beVBEBkcLA"]),
  (214, ["lhMA"]),
  (216, ["bePAepHAgomLBHE"]),
  (218, ["ljEAgxBA"]),
  (220,
    ["beKDCECDCKFDKCDBEDCBvUAEAEAGFCAbAAfNBFACAfBAGACAcPACACCBBBADABABABAgNAKAdNCcJCbZEPACACADCGA",
     "CBdJAceVBbBABAfMAhQAdhLAiMAdYAcBFCABBCBFAgFAnWECDNAiEAHAEAbPADABAbcQADDbzpJCpAAbfpQGblNAiSA",
     "csQAbSAgPAboGCcSBDABDbYABAcvlTHHBhiWAjWAbcIG"]),
  (222, ["cdEASAhkLAirZA"]),
  (224, ["sgKB"]),
  (226, ["gugRA"]),
  (228, ["cdYAheWAcaFBgxEA"]),
  (230,
    ["bdOUbOHBADCDCEADAHMkPEkGDBCCFGBBBCAUAcXHcHBCEBBePGCDBACBCBcPABBBBDACABCBABABABBgEGBAbIDBIBC",
     "BEeBBDDbQEFNCBBBBCGCBBCEdDABBgNAccHBCBblTCbsFAnKAiMAdPHbZEGBEBCEBDgAABGnKCHBEATADBhQBBGBBEb",
     "KFACAbbTBCDDBEAFABAGAeoCCjEbFbtpVAEJbGBdCBtARrEABBDBFBBAbfoWGHBbzYEcmUAbOAgQAwCDcNEmFBfZCBA",
     "cBABAoPCxNGDEiZAbgwVGbmtIEbGDfSCffFGBQCGBBBEdWAgEGoLAcJDtRAjUAbgVF"]),
  (232, ["beJAEAcJAkcBAgxHAgjkHB"]),
  (233, ["bhCACACAkbXA"]),
  (234, ["bhDBBBkaDA"]),
  (240, ["bgFA"])]

/-- The classes other than zero with their marks. -/
def markClasses : List (Nat × CharSet) := markClassTable.map fun e => (e.1, .ofRuns e.2)

def markClass (c : Char) : Nat :=
  if c.toNat < 0x300 then 0 else ((markClasses.find? fun e => e.2.mem c).map Prod.fst).getD 0

end DocCheck.Character
