import DocCheck.Character.Set

/-!
# Characters in names of hosts

Before a name is looked at, each of its characters is put into the form that is looked up: capitals
become small, wide forms become plain, and some characters vanish.

* `Format.HostMapping` — what becomes of a range of characters;
* `Format.hostForm?` — what becomes of a character.
-/

namespace DocCheck.Format

/-- What becomes of some characters. -/
inductive HostMapping where
  /-- Each of `more + 1` characters, from `first` on in steps of `step`, becomes the one that is as
  far behind `target` as it is behind `first`. -/
  | shift (first more step target : Nat)
  /-- One character becomes several. -/
  | spell (first : Nat) (targets : List Nat)

namespace HostMapping

/-- The image of a character, if it is one of those meant. -/
def image? (m : HostMapping) (n : Nat) : Option (List Nat) :=
  match m with
  | shift first more step target =>
    if first ≤ n && n ≤ first + step * more && (n - first) % step == 0 then
      some [target + (n - first)]
    else none
  | spell first targets => if n == first then some targets else none

/-- The mappings in a list of numbers: the distance from the last character before; then zero, the
number of characters less one, the step less one and the first target, or the number of targets and
the targets. The length of the list bounds `fuel`. -/
def ofNumbers (start : Nat) : Nat → List Nat → List HostMapping
  | fuel + 1, skip :: 0 :: more :: step :: target :: rest =>
    shift (start + skip) more (step + 1) target
      :: ofNumbers (start + skip + (step + 1) * more + 1) fuel rest
  | fuel + 1, skip :: count :: rest =>
    spell (start + skip) (rest.take count)
      :: ofNumbers (start + skip + 1) fuel (rest.drop count)
  | _, _ => []

end HostMapping

/-- The mappings in the order of their characters, as numbers. -/
def hostMappingRuns : List String :=
  ["cNAZAdTcRAAAbGHCbGbdWBAAAdTECbGbdSCABAbYACbGbdPAAAAbkUCCbGbfBAAAAbXAAAAeHBDbXmfScAADbXmfSbYAD",
   "bZmfScABAWAiQBAGAjObHAXBjXBCeBbdVBCeBeCACeBeCAABBlXCACBmCBCeEhBACeEhBAADBmKBCbaYeGAAWBmTBAAAj",
   "VAACBoOBAAAeLBAAAwXAABBoXBAAAwYAAAApCBABAxAAAAApGCAAAsJAAAAxDAAAAxFAAAApMBAAAxKAAAAxNBAAAxTAA",
   "AAxSAAAApTDAAAxZAAAAyCBAAAyFAACBqBBAAAyQAAAAqIBAAAyTCAAAqNBAAAyYAAAAqQBABAzAAABBqUBAAAzIAAAAq",
   "ZDAAArDHCdWoSACdWoSACdWoSACeEeCACeEeCACeEeCACeGeCACeGeCACeGeCAAHBrUCAIBsLCCdWeSACdWeSACdWeSAA",
   "AAtHBAAApPAAAArFAATBtLBAAApYBAIBvBHAAAqvDAAAAwABAAApUAAAAqvECAAAwGBAAAoUAAAAyZAAAAzCAAEBwLdTA",
   "AAeAAAAAxQAAAAeCAAAAeKAAAAyJAAAAyLAAAAyRAAAAePAAAAeRbFCbGbdUACbGbdVACbGbdYACbGbfCACbGbdRACbGb",
   "dZCAAAxNAAAAeEAAAAeLAAAAeQAAAAzLdNABAbdOBAAAbeHACbdWbdPAAAAbkRbQABBbhXBAAAbaVBAAAbiDDCbGbkRDA",
   "AAcHAAAAbmXECbGbdPADbGbdWbdPAAAAbkEAAAAhBAACAbkFBAAAblKBABAblLBAQAbkJBAIAblBbJAAAblVAAAAbkKAA",
   "AAbkQAAAAblDAAAAblLAAAAblJAAAAblEAAAAbkYBALBblXBAAAbkSAAAAbkZAAAAblBBAAAbkQAAAAbkNBAAAbnCBAAA",
   "blBAAAAbnFCACAbiHAAPAbqMAAbFAbpGbWAQBbrDJAbABbsTBAAAbvJAAGBbuWCAbVBbvLCAbLAcaZbWCcbDccGjDCciP",
   "clOACcjWclOACcoTclOACcjYclObcHCdlLdmYACdlMdmYACdlNdmYACdlSdmYACdlXdmYACdlYdmYACdmHdmYACdmLdmY",
   "eUCdqVdrWACdqWdrWBCdrJdrWdFCdwKdwUCCdwQdwUbICdvIdwUACdvJdwUACdvOdwUCCdwDdwUjTCefPegQACefQegQb",
   "bXCfkVfjUeXCfpTfoSbOCfoLfnTACfoLfoBbUAAAfsDcCCfuGfyTJCfuQfyTECfuVfyTECfvAfyTECfvFfyTMCfuEfyRJ",
   "CfwBfwCBCfwBfwEACfyOfwQADfyOfwBfwQACfyPfwQADfyPfwBfwQHCfwBfwQRCfxIfyTJCfxSfyTECfxXfyTECfyCfyT",
   "ECfyHfyTMCfxGfyRiWAbLArbCBAAArcPFAAArcVbUAAAgkAbdJAFAhoIdfUAAAbpIAAAAbpKAAAAbpUAABAbpXAAAAbpY",
   "AAAAbqGAAAAbrFAAAAckzJAAAAkvAGAbQAgjOCACAglHeEAAAdTAAAAiWAABBdUAAAAdXAAAAsJAAHAdZBAAAeHAAAAvB",
   "AAAAeIAAAAeKAABAeMAAAAePAAAAdTAABAwUAAAAkzQAAAAdUAABAdWAAAAxDAABAxFAAAAdZBAAAeDAAAAeFAAAAmTAA",
   "AAeHAAAAwYAABAlaKAAAAeIAABAeMAAAAlaRAAAAxZAAAAeOAAAAlaZAACAbkKAABAblEAAAAeBAAAAeKAABAeNAABAbk",
   "KAAAAbkZAABAblENAAAbpTbIAAAwWAAAAdVAAAAwZAAAAjGAAAAxGAAAAdYAAAAxJAAAAxLAAAAxPAACAxSAAAAleHAAA",
   "AzTAAAAxXAAAAleRAAAAzVAAAAyBAAAAyAAADAyCAAAAyIAABAySAAAAqLAABAyZAAAAlaQAABAzBAAAAeSAACAzGAAAA",
   "bkQcMAcWBljLFCdTbbAAAAAlnDCAAAiPBAbVBlpPJAHAltGIAFAltWKAHAluMIAHAlvCIAFAlvSLADBlwJIAHAlwYBAAA",
   "bkEBAAAbkFBAAAbkGBAAAbkHBAAAblKBAAAblLBAAAblMCCltGbkRACltHbkRACltIbkRACltJbkRACltKbkRACltLbkR",
   "ACltMbkRACltNbkRACltGbkRACltHbkRACltIbkRACltJbkRACltKbkRACltLbkRACltMbkRACltNbkRACluMbkRACluN",
   "bkRACluObkRACluPbkRACluQbkRACluRbkRACluSbkRACluTbkRACluMbkRACluNbkRACluObkRACluPbkRACluQbkRAC",
   "luRbkRACluSbkRACluTbkRAClwYbkRAClwZbkRAClxAbkRAClxBbkRAClxCbkRAClxDbkRAClxEbkRAClxFbkRAClwYbk",
   "RAClwZbkRAClxAbkRAClxBbkRAClxCbkRAClxDbkRAClxEbkRAClxFbkRCClxObkRACbkJbkRACbkEbkRCCmaGbkRAABA",
   "maAAAAAlxOAAAAbkEACbkJbkRACbGbeHAAAAbkRACbGbeHACbGbgCADbGbdWbgCAClxSbkRACbkPbkRACbkGbkRCCmaWb",
   "kRAAAAlxQAAAAbkFAAAAlxSAAAAbkGACbkPbkRADbGbeHbdOADbGbeHbdPADbGbeHbgCDAAAbjCEABAmbGAAAAlxUAAAA",
   "bkHBDbGbeIbdOADbGbeIbdPADbGbeIbgCDAAAbkIEABAmbWAAAAlxYAAAAblLAAAAmcBADbGbdWbdOADbGbdWbdPAAAAd",
   "SCClyAbkRACblHbkRACblMbkRCCmcSbkRAAAAlxWAAAAblKAAAAlyAAAAAblMACblHbkRACbGbdPACbGbeIBAAAbGAAAA",
   "bGAAAAbGAAAAbGAAAAbGAAAAbGAAAAbGAAAAbGAAAAbGAAAAbGAAAAbGGAAAmdSFCbGbfNXAAAbGDCmfAmfAADmfAmfAm",
   "fABCmfDmfDADmfDmfDmfDECbHbHBCbGbdTICcLcLACcLbHACbHcLNEmfAmfAmfAmfAHAAAbGQAAAbWAAAAeBCAFAcAAAA",
   "AbRAAAAmxMAAAAcJAABAbOAAAAeGAAJAbWAAAAbRAAAAmxMAAAAcJAABAbOBAAAdTAAAAdXAAAAeHAAAAeQAAAAxDAAAA",
   "eAAADAeDAAAAeIAABAeLLCeKeLdJDdTbVdVADdTbVeLAAAAdVACgUdVBDdVbVeHADdVbVeNAAAAxFBCgUdYAABAdZAAAA",
   "eAAAAAeAAAAAeAAAAAlJAAAAeBAAAAeBAAAAeEAABBeEACeGeHCACAeIAAAAeKAAAAeKCCeLeFADeMdXeEACeMeFBAAAe",
   "SBAAAblHBAAAeSBAAAeDAAAAiVAABAdUBAAAdXAABAdXAAAAmpYAAAAeFAAAAeHAADAcfGAAAAeBBDdYdTeQAAAAbkYAA",
   "AAbkLAAAAbkLAAAAbkYAAAAmxLEAAAdWAABAdWAABAeBGDbXmfScDADbXmfScFAEbXmfSbXbWADbXmfSbZADbYmfSbZAD",
   "bXmfScBADbYmfScBADbZmfScBADcAmfScBADbXmfScCADcBmfScCADbXmfScEADbZmfScEADcBmfScEADcDmfScEACbXm",
   "fSAAAAeBACeBeBADeBeBeBACeBeOAAAAeOACeOeBADeOeBeBAEeOeBeBeBACeBeQAAAAeQACeQeBADeQeBeBAAAAeEAAB",
   "AdVAAAAeFAAAAeBACeBeBADeBeBeBACeBeOAAAAeOACeOeBADeOeBeBAEeOeBeBeBACeBeQAAAAeQACeQeBADeQeBeBAA",
   "AAeEAABAdVAAAAeFDAAAmsAFDbWmfSbZgGCmyLmyLADmyLmyLmyLBCmyOmyOADmyOmyOmyOjOABAseYlXAIAbXACbXbWA",
   "CbXbXACbXbYACbXbZACbXcAACbXcBACbXcCACbXcDACbXcEACbXcFACbYbWADbObXbPADbObYbPADbObZbPADbOcAbPAD",
   "bOcBbPADbOcCbPADbOcDbPADbOcEbPADbOcFbPAEbObXbWbPAEbObXbXbPAEbObXbYbPAEbObXbZbPAEbObXcAbPAEbOb",
   "XcBbPAEbObXcCbPAEbObXcDbPAEbObXcEbPAEbObXcFbPAEbObYbWbPUDbOdTbPADbOdUbPADbOdVbPADbOdWbPADbOdX",
   "bPADbOdYbPADbOdZbPADbOeAbPADbOeBbPADbOeCbPADbOeDbPADbOeEbPADbOeFbPADbOeGbPADbOeHbPADbOeIbPADb",
   "OeJbPADbOeKbPADbOeLbPADbOeMbPADbOeNbPADbOeObPADbOePbPADbOeQbPADbOeRbPADbOeSbPAAZAdTAAZAdTAAAA",
   "bWbyNEmyLmyLmyLmyLdZDcGcGcJACcJcJADcJcJcJdXCqgBbfSlFAbVAqtCbWAAAquZBAAAxVAAAAleJAAAAyNCACBqvG",
   "BAAAwVAAAAyBAAAAwUAAAAwWBAAAqvRCAAAqvUGAAAeCAAAAeOAABAwDAAbXBqwFIABBraIEAAAraPeUAAAreVlRAAAbo",
   "vLdFAAAcilRMAAAbdoAAAAAbdpOAAAAbdqCAAAAbdqLAAAAbdrLAAAAbdtDAAAAbdtKAAAAbduEAAAAbdvEAAAAbetZAA",
   "AAbevLAAAAbevRAAAAbewOAAAAbexIAAAAbeyDAAAAbfaEAAAAbfaZAAAAbfbKAAAAbfhJAAAAbfkZAAAAbfmBAAAAbfm",
   "GAAAAbfnKAAAAbfnTAAAAbfoUAAAAbfpHAAAAbfqGAAAAbfsGAAAAbfsYAAAAbftZAAAAbgxBAAAAbgzVAAAAbhrNAAAA",
   "bhsKAAAAbhsSAAAAbhtDAAAAbhtVAAAAbhwTAAAAbipCAAAAbiqYAAAAbivOAAAAbiwLAAAAbixEAAAAbiyAAAAAbjaCA",
   "AAAbjaFAAAAbjoDAAAAbjoNAAAAbjoZAAAAbjpMAAAAbjtYAAAAbjuGAAAAbjuLAAAAbjyYAAAAbjzIAAAAbjzVAAAAbk",
   "aDAAAAbkcMAAAAbkdDAAAAbkdVAAAAbkgXAAAAbldGAAAAblfAAAAAblfVAAAAbmiHAAAAbmiMAAAAbmlRAAAAbmmHAAA",
   "AbmmUAAAAbmnPAAAAbmpCAAAAbmpHAAAAbmzOAAAAbnaMAAAAbnbSAAAAbooUAAAAborIAAAAbosFAAAAbouLAAAAbovJ",
   "AAAAbovSAAAAbovZAAAAboxZAAAAboyEAAAAbozKAAAAbqoXAAAAbrgCAAAAbrgOAAAAbrgTAAAAbrgXAAAAbrhFAAAAb",
   "rhXAAAAbrhZAAAAbrlCAAAAbrtKAAAAbrtPAAAAbsgQAAAAbshAAAAAbsiYAAAAbsjFAAAAbsjOAAAAbsjWAAAAbsnJAA",
   "AAbsnQAAAAbswKAAAAbswRAAAAbsyOAAAAbszFAAAAbtbAAAAAbtkDAAAAbtkKAAAAbtlBAAAAbtxQAAAAbucMAAAAbuc",
   "SAAAAbujSAAAAbunBAAAAbuoVAAAAbvdJAAAAbviMAAAAbweOAAAAbwfPAAAAbwhUAAAAbwjTAAAAbwmJAAAAbwmUAAAA",
   "bwnAAAAAbwoHAAAAbwrFAAAAbwrPAAAAbxeXAAAAbxfEAAAAbxfNAAAAbxfWAAAAbxgMAAAAbxhBAAAAbxhFAAAAbxkGA",
   "AAAbxkKAAAAbxkQAAAAbywJAAAAbyxNAAAAbzpOAAAAbzqAAAAAbzqXAAAAcabUAAAAcacHAAAAcafAAAAAcagUAAAAcb",
   "cPAAAAcbdEAAAAcbdTAAAAcbfCAAAAcbgNAAAAcboEAAAAcboQAAAAcbrFAAAAccaTAAAAccbYAAAAccjZAAAAcckUAAA",
   "AcckZAAAAcctLAAAAcdaNAAAAcdfIAAAAcdfOAAAAcdfTAAAAcepRAAAAceqAAAAAcewAAAAAcfbYAAAAcfcBAAAAcfdW",
   "AAAAcfhXAAAAcfiKAAAAcfiOAAAAcfiVAAAAcfmPAAAAcfnXAAAAcfoDAAAAcfoRAAAAcfvCAAAAcfxBAAAAcfxFAAAAc",
   "geGAAAAcgeJAAAAcgfCAAAAcgoUAAAAcgqQAAAAcgqXAAAAcgtPAAAAcgtZAAAAcguCAAAAcguMAAAAcgvQAAAAchkVAA",
   "AAciaFAAAAciaPAAAAcicBAAAAcicXAAAAcidFAAAAcidPAAAAcidTAAAAcifHAAAAcifLAAAAcigCAAAAcigHAAAAcig",
   "UAAAAcihVAAAAciiKAAAAciiSAAAAcikZAAAAcilOAAAAcilSbQAAAbGBAAAbUbZAAAsfIBAAAbfnTAABAbfnWdSCbGsk",
   "NACbGskOCCsjWsjYdRCslNsmIbXABAglKAAAAgrYAAAAglMAABAgsAAACAglNAAFAgsEAAAAgmKAACAglQAAAAgmRAAJA",
   "glTAAUAgpDBABAgmEAABAgtBAAAAgtGAAAAgtIAAAAgtNAAAAgtRAAAAgtTAAAAgmMAAAAgtXAAAAgtZAABAgmNAAAAgm",
   "QAABAgmSAAAAgmXAAAAgmZAAEAgnBAAAAgnIAAAAgnMAAAAgnWAAAAgoDAAAAgoIAABAguRAACAgoTAABAgqMAAAAgqQA",
   "ABAgqZAAAAgrCAAAAgrMAAAAgrPDAAAbdoAAAAAbdtKAAAAbdoJAAAAbgxFAAAAbdoKAAAAbdpTAAAAbdoLAAAAbsjYAA",
   "AAbdrLAAAAbdoZAAAAbdoBAAAAbhtXAAAAbhaMAAAAbdvEdSDbOglKbPADbOglMbPADbOglNbPADbOglPbPADbOglQbPA",
   "DbOglRbPADbOglTbPADbOglVbPADbOglWbPADbOglYbPADbOglZbPADbOgmAbPADbOgmBbPADbOgmCbPADbOcndObPADb",
   "OcowUbPADbOcptKbPADbOcrmQbPADbOcsjGbPADbOctfWbPADbOcuzCbPADbOcwsIbPADbOcxoYbPADbOcziEbPADbOda",
   "eUbPADbOdbbKbPADbOdbyAbPADbOdcuQbPADbOcycYbPAEbOcxaYcxtKbPAEbOcxaYddiQbPBDbObdoAbPADbObdtKbPA",
   "DbObdoJbPADbObgxFbPADbObdtSbPADbObevTbPADbObdoDbPADbObevRbPADbObdrPbPADbObfnTbPADbObnaMbPADbO",
   "bqoXbPADbObozKbPADbObnbSbPADbOcdfTbPADbObgzVbPADbObmpHbPADbObnlQbPADbObnaNbPADbObtxUbPADbObfv",
   "PbPADbObrjDbPADbOcbgRbPADbObtyZbPADbObfiIbPADbObdwTbPADbObfzWbPADbObipYbPADbObtaPbPADbObdxXbP",
   "ADbOcbiDbPADbObfoMbPADbObtzPbPADbObdyNbPADbObxfEbPADbObxfNbPAAAAbghZAAAAbjuIAAAAbmlRAAAAbuuPI",
   "DeIeMdXACbYbXACbYbYACbYbZACbYcAACbYcBACbYcCACbYcDACbYcEACbYcFACbZbWACbZbXACbZbYACbZbZACbZcAAC",
   "bZcBAAAAglKAABAglMAACAglPAAAAglTAABAglVAAEAglYAAAAcndOAAAAcowUAAAAcptKAAAAcrmQAAAAcsjGAAAActf",
   "WAAAAcuzCAAAAcwsIAAAAcxoYAAAAcziEAAAAdaeUAAAAdbbKAAAAdbyAAAAAdcuQACcziUcnmEACcycYcxmUAAAAcxgI",
   "BAAAbdoAAAAAbdtKAAAAbdoJAAAAbgxFAAAAbdtSAAAAbevTAAAAbdoDAAAAbevRAAAAbdrPAAAAbfnTAAAAbnaMAAAAb",
   "qoXAAAAbozKAAAAbnbSAAAAcdfTAAAAbgzVAAAAbmpHAAAAbnlQAAAAbnaNAAAAbtxUAAAAbfvPAAAAbrjDAAAAcbgRAA",
   "AAbtyZAAAAbfiIAAAAbudSAAAAbskDAAAAbhwTAAAAccrXAAAAbetEAAAAbfpOAAAAbpgIAAAAcfoVAAAAbdyNAAAAbex",
   "LAAAAborJAAAAbdoKAAAAbdpTAAAAbdoLAAAAbjoOAAAAbfuPAAAAbfnNAAAAbirVAAAAbipYAAAAbtaPAAAAbdxXAAAA",
   "cbiDAAAAbfoMAAAAbhtKACbZcCACbZcDACbZcEACbZcFACcAbWACcAbXACcAbYACcAbZACcAcAACcAcBACcAcCACcAcDA",
   "CcAcEACcAcFACcBbWACbXbnaMACbYbnaMACbZbnaMACcAbnaMACcBbnaMACcCbnaMACcDbnaMACcEbnaMACcFbnaMADbX",
   "bWbnaMADbXbXbnaMADbXbYbnaMACeAdZADdXeKdZACdXeOADeEeMdWAAAAskWAAAAskYAAAAslAAAAAslCAABAslEAAAA",
   "slHAAAAslJAAAAslLAAAAslNAAAAslPAAAAslRAAAAslTAAAAslVAAAAslXAAAAslZAAAAsmBAAAAsmEAAAAsmGAAAAsm",
   "IAAFAsmKAAAAsmSAAAAsmVAAAAsmYAAAAsnBAAEAsnEAAAAsnKAAAAsnMAAFAsnOAADAsnVACbdwUbgaMAEskWsmRsoIs",
   "mIAEskWsnRsmVskVAEskWsnZsnAskWADskWsoIsnRAEskYsmLsnZslKADskYsnZsmBADslAslDsnZAFslCslTslJsoIsm",
   "JAEslCsoIslFsoIADslEsnZslTADslEsoIsnGADslFskYsnQAEslFsnPsmDsmIAEslFsnTsnQsoIADslGsnTsnZADslGs",
   "nZsnEACslIslGADslIsmLsoIAEslHsnLsnQsoIAEslIsnRsmAsoIACslHsnTAFslHsnTslKsnPsnGAGslHsnTsnHsoIsm",
   "IsnRAFslHsnTsnVsmDsmIADslKsnPsnGAFslKsnPsnGsmIsnZAFslJsnRslWskYsnTAEslJsnTsoIsmNADslLsoIslTAD",
   "slNsnRsmKADslNsoIsnDAEslPskYslJsnRAFslPsnZsmBsoIsnGAEslRsnQsnZslKADslVsnZsmBADslVsnZsmIADsmAs",
   "oIslTACsmHslRACsmJsnRACsmIsnZACsmKsmOADsmOsmDsmIADsmPskYsmEAFsmRsoIslVsnZsmIADsmRsoIsmEAEsmQs",
   "oIsnSsnRAFsmUskWslTsmIsnRADsmUslJsnRACsmUslNACsmTsnRAFsmVskVsnPsmDsmJAEsmVskXsoIsmIAFsmWsmDsl",
   "RslBsnRADsmVsnPsnZAFsmYslJslZsoIsnRACsnAslXADsnAsmLsmSADsmYsnRsmEADsnAsnZslTADsnAsoIslSADsmZs",
   "oIslZAEsnDskYsnZsmIADsnCsnRsmIACsnBsnZADsnDsnZsmJADsnBsoIsnRADsnBsoIsnZAEsnEskYslJsnTADsnEskY",
   "snRADsnEsmDsmPADsnEsnRslJAFsnEsnZslRsnNsnZAEsnFslJsnTsnZACsnFsnQAFsnFsnQsmQsoIsnRACsnHslGAEsn",
   "HslGsmIsnZAEsnHsoIsmIsnRADsnKsoIsmJADsnKsoIsnRADsnMskWsnZAEsnQsmDsmIsnRACsnQsnPADsnRsmUsoIAEs",
   "nRsoIsmWsnRACsnSsnGAFsnSsnZsmIslMsnZADsnVsmDsmIACbWbqrXACbXbqrXACbYbqrXACbZbqrXACcAbqrXACcBbq",
   "rXACcCbqrXACcDbqrXACcEbqrXACcFbqrXADbXbWbqrXADbXbXbqrXADbXbYbqrXADbXbZbqrXADbXcAbqrXADbXcBbqr",
   "XADbXcCbqrXADbXcDbqrXADbXcEbqrXADbXcFbqrXADbYbWbqrXADbYbXbqrXADbYbYbqrXADbYbZbqrXADbYcAbqrXAD",
   "eAeIdTACdWdTACdTeNADdUdTeKACeHeOACeIdVACdWeFADdWeFbYADdWeFbZACeBeNACbjtZbldOACbmsBbgaMACbhtVb",
   "orJACbmqWbpePAEbnlQbjzZbdyWbtxUACeIdTACeGdTACbkUdTACeFdTACeDdTACeDdUACeFdUACdZdUADdVdTeEAEeDd",
   "VdTeEACeIdYACeGdYACbkUdYACbkUdZACeFdZACeDdZACeAeSADeDeAeSADeFeAeSADdZeAeSADeMeAeSACbkUeEACeFe",
   "EACdWeEACeDeEACdYeFACeGeFACbkUeFACeFeFACdVeFACeDeFADeFeFbYADdVeFbYACeFbYADeDeFbYADeFeFbZADdVe",
   "FbZACeFbZADeDeFbZADeFmxPeLAEeFmxPeLbYACeIdTADeDeIdTADeFeIdTADdZeIdTADeKdTdWAFeKdTdWmxPeLAGeKd",
   "TdWmxPeLbYACeIeLACeGeLACbkUeLACeFeLACeIeOACeGeOACbkUeOACeFeOACeDeOACeFeOACeIePACeGePACbkUePAC",
   "eFePACeDePACeFePACeDblHACeFblHBCdUeJACdVdVACdVdWAEdVmxPeDdZBCdWdUACdZeRACeAdTACeAeIACeBeGACeD",
   "eDACeDeFACeDeMACeEeFACeEeGADeEeHdZACeEeQACeFdUADeFeBeEADeFeHeEACeIeABDeIeIeFACeIeKACeLeKACeLe",
   "OACePdUADeOmxPeFADdTmxPeFACbXbmpHACbYbmpHACbZbmpHACcAbmpHACcBbmpHACcCbmpHACcDbmpHACcEbmpHACcF",
   "bmpHADbXbWbmpHADbXbXbmpHADbXbYbmpHADbXbZbmpHADbXcAbmpHADbXcBbmpHADbXcCbmpHADbXcDbmpHADbXcEbmp",
   "HADbXcFbmpHADbYbWbmpHADbYbXbmpHADbYbYbmpHADbYbZbmpHADbYcAbmpHADbYcBbmpHADbYcCbmpHADbYcDbmpHAD",
   "bYcEbmpHADbYcFbmpHADbZbWbmpHADbZbXbmpHADdZdTeEbrgYAWBckyZTANBclbLBAAAbqGAAAAbqIfCAGBclhRDAbEB",
   "cliHBAAAclkPIABBcllABAAAleFAAEBcllFEAAAcllSBAAAxPCABBcllXDAJBclmDBAAAxQAAAAxGAAAAxLAAAAxWAAAA",
   "xUBAAAzUAAAAyXAAAAzTAAAAcmwXAAHBclnHBAAAclmAAAAAySAAAAlfAAABBcloABAAAxOAAAAcloFDAAAcloJFACBcl",
   "oPBAAApVVAAAdVAAAAdYAAAAeJAAAAclpUCAAAlJAAAAnBbhIAAAclhVAAAAcmvVAAAAxVAAAAcmwWJAAAzDGAdBAhlGb",
   "dgQAAAcbdGAAAAbmzSAAAAccbYAAAAcbiEAAAAbpzDAAAAbdpYAAAAbfuBAAAAcilOAAAAcilOAAAAbhvLAAAAcdfTAAA",
   "AbgkDAAAAbhvCAAAAblcOAAAAbsvXAAAAbwhPAAAAbyvVAAAAbzkKAAAAbzwQAAAAcctJAAAAbodUAAAAbpiHAAAAbqtD",
   "AAAAbrwWAAAAbycBAAAAcdbUAAAAcghTAAAAbdtAAAAAbfpTAAAAbonSAAAAbrfNAAAAbyvDAAAAchwWAAAAbjiUAAAAb",
   "qjZAAAAbyrLAAAAcaaUAAAAblkRAAAAbxeMAAAAbzoHAAAAbjxIAAAAbnbBAAAAbplIAAAAbroEAAAAccvUAAAAbedAAA",
   "AAbeyPAAAAbfjYAAAAbmeEAAAAbolVAAAAbrfCAAAAbtaTAAAAbwmJAAAAbytQAAAAbywYAAAAcbtNAAAAcfgSAAAAcgw",
   "LAAAAchvMAAAAbtqYAAAAbuaHAAAAbvoYAAAAbxxPAAAAcdrOAAAAciaPAAAAcapAAAAAbhrBAAAAbjzOAAAAbvcQAAAA",
   "bwrEAAAAbriGAAAAbttIAAAAcbhYAAAAcfeLAAAAbhqUAAAAbizQAAAAboeLAAAAbppQAAAAbqbNAAAAbvkPAAAAbvuTA",
   "AAAcexVAAAAbfjMAAAAbwrRAAAAbfaAAAAAbezKAAAAbugIAAAAbvqCAAAAbxzDAAAAcezLAAAAcavOAAAAblkXAAAAbo",
   "dUAAAAcaqOAAAAbdqFAAAAbiuXAAAAbkjYAAAAbrtNAAAAbsmIAAAAbfmDAAAAbtvFAAAAbefFAAAAbkfXAAAAbdoNAAA",
   "AbpfGAAAAbmlCAAAAbvkCAAAAbfsTAAAAbhmCAAAAbtbTAAAAbycNAAAAcanIAAAAbouSAAAAcckUAAAAbpcQAAAAblmS",
   "AAAAbxoVAAAAblsYAAAAbslXAAAAbduSAAAAbevPAAAAbezHAAAAbnoZAAAAbvhVAAAAbxkHAAAAcaoWAAAAcdfRAAAAb",
   "fkVAAAAbfxQAAAAbhwTAAAAbjyQAAAAbmoBAAAAbqkSAAAAbtxAAAAAcerTAAAAcgmKAAAAcibNAAAAcidQAAAAbfhJAA",
   "AAbmxYAAAAbosDAAAAcchUAAAAbjuAAAAAbkyQAAAAblcYAAAAbmcOAAAAbqcHAAAAbqxLAAAAbsdLAAAAbudEAAAAbvs",
   "EAAAAbwqPAAAAccfMAAAAbyiWAAAAccpFAAAAcduGAAAAbfcHAAAAbfhRAAAAbgcJAAAAbqsMAAAAbzuOAAAAcanIAAAA",
   "bjxHAAAAbkiVAAAAblrNAAAAbouGAAAAbvbIAAAAbrsVAAAAbdwUAAAAbgyJAAAAbiuXAAAAbjmWAAAAbkkIAAAAbrvEA",
   "AAAbscFAAAAbwiKAAAAbwpAAAAAcdjOAAAAcfeKAAAAcfhOAAAAcfpOAAAAbedFAAAAbucCAAAAcdeQAAAAcfcAAAAAbk",
   "rXAAAAbdtEAAAAbeqCAAAAbivEAAAAbiyHAAAAbmmJAAAAbodUAAAAbrcOAAAAbsuKAAAAbyjKAAAAccsQAAAAcikZAAA",
   "AbmvOAAAAcewSAAAAbfgRAAAAbneXAAAAbnjNAAAAbpjTAAAAbpxCAAAAbryNAAAAbslLAAAAbtpRAAAAbvjKAAAAcfsG",
   "AAAAbevTAAAAbleSAAAAcezOAAAAbejJAAAAbjgRAAAAbpqGAAAAccfQAAAAbkeTAAAAbkvSAAAAbnkXAAAAbrtNAAAAc",
   "faCAAAAbfcZAAAAbfvRAAAAbizTAAAAbmrBAAAAbndEAAAAbnqMAAAAbpgFAAAAbryKAAAAbsqSAAAAbwhDAAAAbzvBAA",
   "AAbzvTAAAAcdfOAAAAcfdQAAAAbfnRAAAAbpyGAAAAbfwFAAAAbrcQAAAAbseAAAAAbytEAAAAcfbFAAAAchfJAAAAcib",
   "VAAAAbnfZAAAAbppBAAAAbxfCAAAAbunBAAAAbuqIAAAAbveOAAAAbrlWAAAAbqqRAAAAcauAAAAAbdvKAAAAbxrYAAAA",
   "bfdQAAAAbfbRAAAAbjvYAAAAbllBAAAAbvhEAAAAbirDAAAAbpiKAAAAbmxGAAAAccgHAAAAbzqAAAAAcexXAAAAcacHA",
   "AAAbjxRAAAAbeuAAAAAbgmICAAAbhlYBAAAbmuUCAAAbfaCAAAAbrpYAAAAbszQAAAAbtxSAAAAbtzAAAAAbtzHAAAAbu",
   "aXAAAAcfiCAAAAbvgGAAAAbwjTBAAAbyuCBAAAcaqICAAAccqAAAAAccxPDAAAcfxVAAAAcfyIAAAAcgaAAAAAchsUAAA",
   "AccwKAAAAcfbZAAAAbeeOAAAAbeqPAAAAbeuNAAAAbfjDAAAAbfkEAAAAbfoJAAAAbgkZAAAAbgpAAAAAbgsUAAAAbhkY",
   "AAAAbhoYAAAAbizSAAAAbjaCAAAAbkoYAAAAbkxCAAAAbkyOAAAAblcKAAAAbmjNAAAAbmpEAAAAbmvXAAAAbnpDAAAAb",
   "plVAAAAbpsCAAAAbqcGAAAAbqyWAAAAbrgDAAAAbrzMAAAAbtrDAAAAbtxUAAAAbtyFAAAAbtyEAAAAbtyMAAAAbtySAA",
   "AAbtyZAABAbuaVAAAAbuhSAAAAbukFAAAAbuwMAAAAbvsEAAAAbvsZAAAAbvvDAAAAbwgWAAAAbwmNAAAAbxfHAAAAbxk",
   "RAAAAbxkRAAAAbydBAAAAbzxOAAAAcacSAAAAcaqRAAAAcasVAAAAcbiPAAAAcbkQAAAAcclAAAAAccqAAAAAcfdRAAAA",
   "cfoPAAAAcfqXAAAAbknTAAAAilgGAAAAbxgYCAAAbdpMAAAAbeyNAAAAbevOAAAAbecUAAAAbeuFAAAAbewMAAAAbfjBA",
   "AAAbflAAAAAbgkZAAAAbgiFAAAAbgkVAAAAbgnQAAAAbhlYAAAAbhpJAAAAbhuYAAAAbhvOAAAAbifYAAAAbinOAAAAbj",
   "xQAAAAbjxXAAAAbkdLAAAAbkgBAAAAbkrOAAAAbkwCAAAAbktKAAAAbkyOAAAAbkwUAAAAblcKAAAAbleYAAAAbluIAAA",
   "AblxSAAAAblzUAAAAbmjUAAAAbmuUAAAAbnbBAAAAbnbFAAAAbndMAAAAbosFAAAAbouSAAAAbpjTAAAAbpzNAAAAbpyX",
   "AAAAbqcGAAAAbqlYAAAAbqyWAAAAbtiDAAAAbrgNAAAAbrlFAAAAbrpYAAAAbscNAAAAbsiGAAAAbskHAAAAbssZAAAAb",
   "stBAAAAbszQAAAAbtaHAAAAbtbGAAAAbteOAAAAbteEAAAAbttKAAAAbumBAAAAbuwMAAAAbvdRAAAAbvmHAAAAbvsEAA",
   "AAbweWAAAAbwmNAAAAbxtAAAAAbxzBAAAAbzhXAAAAbzzLAAAAcacCAAAAcacSAAAAcaoDAAAAcaqIAAAAcaoPAAAAcaq",
   "RAAAAcaqOAAAAcapXAAAAcasVAAAAcavYAAAAcbkQAAAAccgEAAAAccsGAAAAcddPAAAAcdmCAAAAcezSAAAAcfdRAAAA",
   "cfiCAAAAcfnFAAAAcfoPAAAAcfpBAAAAcfqXAAAAcgsWAAAAcilOAAAAibdYAAAAibdSAAAAifnPAAAAwoZAAAAyhCAAA",
   "AyiJAAAAirbLAAAAivbCAAAAjhxZAAAAciiDAAAAcilAbMCdYdYACdYeBACdYeEADdYdYeBADdYdYeEACeLeMACeLeMMC",
   "cbScbUACcbScbDACcbScbJACccCcbUACcbScbLFCcfPceEBCcgOceHAAAAcfYAAAAcfGAABAcfJAACAcfRAAAAcgEAAAA",
   "cgGAAAAbRACcgFceRACcgFceSADcgFceMceRADcgFceMceSACcfGceHACcfGceIACcfGceMACcfHceMACcfIceMACcfJc",
   "eMACcfKceMACcfLceMACcfMceMBCcfOceMACcfPceMACcfQceMACcfRceMACcfSceMBCcfUceMBCcfWceMACcfXceMBCc",
   "fZceMACcgAceMBCcgCceMACcgDceMACcgEceMACcgFceMACcgGceMACcfLceJACcfHcePACcfRcePACcgAcePACcfGcfS",
   "AAAAclLAAAAclLAAAAclVAAAAclVAAAAclVAAAAclVAAAAclYAAAAclYAAAAclYAAAAclYAAAAcmAAAAAcmAAAAAcmAAA",
   "AAcmAAAAAclUAAAAclUAAAAclUAAAAclUAAAAclZAAAAclZAAAAclZAAAAclZAAAAclTAAAAclTAAAAclTAAAAclTAAAA",
   "cnKAAAAcnKAAAAcnKAAAAcnKAAAAcnMAAAAcnMAAAAcnMAAAAcnMAAAAcmEAAAAcmEAAAAcmEAAAAcmEAAAAcmDAAAAcm",
   "DAAAAcmDAAAAcmDAAAAcmGAAAAcmGAAAAcmGAABAcmGAAAAcmHAAAAcmHAAAAcmHAAAAcmNAAAAcmNAAAAcmMAAAAcmMA",
   "AAAcmOAAAAcmOAAAAcmIAAAAcmIAAAAcmYAAAAcmYAAAAcmRAAAAcmRAAAAcnPAAAAcnPAAAAcnPAAAAcnPAAAAcnVAAA",
   "AcnVAAAAcnVAAAAcnVAAAAcnZAAAAcnZAAAAcnZAAAAcnZAAAAcnXAAAAcnXAAAAcnXAAAAcnXAAAAcoGAABAcoGAAAAc",
   "oHAAAAcoHAAAAcoHAAAAcoMAABAcoMAAAAcoNAAAAcoNAAAAcoNAAAAcoKAAAAcoKAAAAcoKAAAAcoKAAAAcpEAABAcpE",
   "AAAAcpFbHAAAcnTAAAAcnTAAAAcnTAAAAcnTAAAAcoTAAAAcoTAAAAcoSAAAAcoSAAAAcoUAAAAcoUACcoTclOAAAAcoX",
   "AAAAcoXAAAAcoRAAAAcoRAAAAcoVAAAAcoVAAAAcpCAAAAcpCAAAAcpCAAAAcpCAAAAcjXAAAAcjXACciOciPACciOciP",
   "ACciOcpHACciOcpHACciOcjWACciOcjWACciOcoTACciOcoTACciOcoSACciOcoSACciOcoUACciOcoUACciOcpCACciO",
   "cpCACciOcpCACciOcjXACciOcjXACciOcjXAAAAcoYAAAAcoYAAAAcoYAAAAcoYACciOciUACciOciVACciOcjTACciOc",
   "jXACciOcjYACciQciUACciQciVACciQciWACciQcjTACciQcjXACciQcjYACciSciUACciSciVACciSciWACciScjTACc",
   "iScjXACciScjYACciTciUACciTcjTACciTcjXACciTcjYACciUciVACciUcjTACciVciUACciVcjTACciWciUACciWciV",
   "ACciWcjTACcjBciUACcjBciVACcjBciWACcjBcjTACcjDciVACcjDcjTACcjEciUACcjEciVACcjEciWACcjEcjTACcjF",
   "ciVACcjFcjTACcjGcjTACcjHciUACcjHcjTACcjIciUACcjIcjTACcjPciUACcjPciVACcjPciWACcjPcjTACcjPcjXAC",
   "cjPcjYACcjQciVACcjQcjTACcjQcjXACcjQcjYACcjRciPACcjRciUACcjRciVACcjRciWACcjRcjSACcjRcjTACcjRcj",
   "XACcjRcjYACcjSciUACcjSciVACcjSciWACcjScjTACcjScjXACcjScjYACcjTciUACcjTciVACcjTciWACcjTcjTACcj",
   "TcjXACcjTcjYACcjUciUACcjUciVACcjUciWACcjUcjTACcjUcjXACcjUcjYACcjVciUACcjVcjTACcjVcjXACcjVcjYA",
   "CcjYciUACcjYciVACcjYciWACcjYcjTACcjYcjXACcjYcjYACciYclKACciZclKACcjXclKADbGckAckFADbGckBckFAD",
   "bGckCckFADbGckDckFADbGckEckFADbGckFclKACciOciZACciOcjAACciOcjTACciOcjUACciOcjXACciOcjYACciQci",
   "ZACciQcjAACciQcjTACciQcjUACciQcjXACciQcjYACciSciZACciScjAACciScjTACciScjUACciScjXACciScjYACci",
   "TciZACciTcjAACciTcjTACciTcjUACciTcjXACciTcjYACcjPcjXACcjPcjYACcjQcjXACcjQcjYACcjRciPACcjRcjSA",
   "CcjRcjTACcjRcjXACcjRcjYACcjScjTACcjScjXACcjScjYACcjTciPACcjTcjTACcjUciZACcjUcjAACcjUcjTACcjUc",
   "jUACcjUcjXACcjUcjYACcjXclKACcjYciZACcjYcjAACcjYcjTACcjYcjUACcjYcjXACcjYcjYACciOciUACciOciVACc",
   "iOciWACciOcjTACciOcjVACciQciUACciQciVACciQciWACciQcjTACciQcjVACciSciUACciSciVACciSciWACciScjT",
   "ACciScjVACciTcjTACciUciVACciUcjTACciVciUACciVcjTACciWciUACciWcjTACcjBciUACcjBciVACcjBciWACcjB",
   "cjTACcjDciVACcjDciWACcjDcjTACcjEciUACcjEciVACcjEciWACcjEcjTACcjFciVACcjGcjTACcjHciUACcjHcjTAC",
   "cjIciUACcjIcjTACcjPciUACcjPciVACcjPciWACcjPcjTACcjQciVACcjQcjTACcjRciUACcjRciVACcjRciWACcjRcj",
   "SACcjRcjTACcjSciUACcjSciVACcjSciWACcjScjTACcjScjVACcjTciUACcjTciVACcjTciWACcjTcjTACcjUciUACcj",
   "UciVACcjUciWACcjUcjTACcjUcjVACcjVciUACcjVcjTACcjVclKACcjYciUACcjYciVACcjYciWACcjYcjTACcjYcjVA",
   "CciOcjTACciOcjVACciQcjTACciQcjVACciScjTACciScjVACciTcjTACciTcjVACcjBcjTACcjBcjVACcjCcjTACcjCc",
   "jVACcjRcjSACcjRcjTACcjScjTACcjUcjTACcjUcjVACcjYcjTACcjYcjVADcjOckCckFADcjOckDckFADcjOckEckFAC",
   "cjFcjXACcjFcjYACcjHcjXACcjHcjYACcjIcjXACcjIcjYACcjBcjXACcjBcjYACcjCcjXACcjCcjYACciVcjXACciVcj",
   "YACciUcjXACciUcjYACciWcjXACciWcjYACcjDcjXACcjDcjYACcjEcjXACcjEcjYACcjCciUACcjCciVACcjCciWACcj",
   "CcjTACcjCciZACcjBciZACcjDciZACcjEciZACcjFcjXACcjFcjYACcjHcjXACcjHcjYACcjIcjXACcjIcjYACcjBcjXA",
   "CcjBcjYACcjCcjXACcjCcjYACciVcjXACciVcjYACciUcjXACciUcjYACciWcjXACciWcjYACcjDcjXACcjDcjYACcjEc",
   "jXACcjEcjYACcjCciUACcjCciVACcjCciWACcjCcjTACcjCciZACcjBciZACcjDciZACcjEciZACcjCciUACcjCciVACc",
   "jCciWACcjCcjTACcjBcjVACcjCcjVACcjFcjTACcjBciUACcjBciVACcjBciWACcjCciUACcjCciVACcjCciWACcjFcjT",
   "ACcjGcjTACciPcjZACciPcjZSDciSciUcjTADciSciVciUADciSciVciUADciSciVcjTADciSciWcjTADciScjTciUADc",
   "iScjTciVADciScjTciWADciUcjTciVADciUcjTciVADciVcjTcjYADciVcjTcjXADcjBciVciUADcjBciUciVADcjBciU",
   "cjXADcjBcjTciVADcjBcjTciVADcjBcjTciUADcjBcjTcjTADcjBcjTcjTADcjDciVciVADcjDciVciVADcjDcjTcjTAD",
   "cjCciVcjTADcjCciVcjTADcjCciUcjYADcjCcjTciWADcjCcjTciWADcjCcjTcjTADcjCcjTcjTADcjEciVcjXADcjEci",
   "WcjTADcjEciWcjTADcjFcjTciVADcjFcjTciVADcjFcjTcjTADcjFcjTcjYADcjHciUcjTADcjHcjTcjTADcjHcjTcjTA",
   "DcjHcjTcjXADcjIcjTcjTADcjIcjTcjYADcjIcjTcjXADcjPciWcjTADcjPciWcjTADcjQcjTciVADcjQcjTcjTADcjSc",
   "iVcjTADcjSciVcjYADcjSciVcjXADcjSciUciUADcjSciUciUADcjSciWcjTADcjSciWcjTADcjScjTciVADcjScjTciV",
   "ADcjTciVciUADcjTciVcjTADcjTciVcjYADcjTciUciVADcjTciUcjTADcjTciWciUADcjTciWcjTCDcjTciUciWADcjV",
   "cjTciUADcjVcjTcjTADcjUciVcjTADcjUciVcjXADcjUciUcjTADcjUciUcjTADcjUciUcjXADcjUcjTcjYADcjUcjTcj",
   "XADcjYcjTcjTADcjYcjTcjTADciQciWcjYADciSciUcjYADciSciUcjXADciSciWcjYADciSciWcjXADciScjTcjYADci",
   "ScjTcjXADciUcjTcjYADciUciVcjXADciUcjTcjXADcjBciWcjXADcjDciVcjYADcjCciVcjYADcjEciVcjYADcjSciUc",
   "jYADcjScjTcjYADcjYciVcjYADcjYciUcjYADcjYcjTcjYADcjTcjTcjYADcjQcjTcjYADcjUciVcjYADcjQcjTciVADc",
   "jSciVcjTADcjHcjTcjYADcjRcjTcjYADcjUciUciVADcjTciWcjYADcjSciUcjTADcjRcjTcjTADcjSciUcjTADcjUciU",
   "ciVADciUciVcjYADciVciUcjYADcjTciUcjYADcjPcjTcjYADciQciVcjYADcjRcjTcjTADcjHciUcjTADcjDcjTcjTAD",
   "cjBciWcjYADcjUciUcjYbODcjDcjScpEADcjQcjScpEAEciPcjScjScjVAEciPcjRciQciZAEcjTciVcjTciXAEcjDcjS",
   "cjHcjTAEciZcjBcjWcjSAEcjHcjScjYcjVAEcjWcjBcjScjTADcjDcjScjXAScjDcjScjXbGciPcjScjScjVbGcjHcjSc",
   "jYcjVbGcjWcjBcjScjTAIciUcjSbGciUcjSciPcjScjVAEciZcoYciPcjSTAAAbSAAAAseRBABAcGAAAAbHAAAAcLAABA",
   "sfMYAAAmdWAAAAmdVAAAAdRAAAAdRAABAbOAAAAeTAAAAeVAABAsfKAABAsfGAABAsfAAABAseYAADAsfCCAAAdNAAAAd",
   "PACbGbdTACbGbdTACbGbdTACbGbdTAAAAdRAAAAdRAAAAdRAAAAbSAAAAseRCAAAcHAAAAcGAAAAcLAAAAbHAAAAmdWAA",
   "BAbOAAAAeTAAAAeVAABAsfKAAAAbJAAAAbMAABAbQAAAAbTAAAAcIAAAAcKAAAAcJBAAAdOAABAbKAAAAcMECbGcjZACc",
   "jOcjZACbGckABCbGckBBCbGckCACcjOckCACbGckDACcjOckDACbGckEACcjOckEACbGckFACcjOckFACbGckGACcjOck",
   "GAABAciJAABAciKAABAciLAABAciMAABAciNAAAAciOAAAAciOAABAciOAABAciPAAAAciQAAAAciQAABAciQAABAciRA",
   "AAAciSAAAAciSAABAciSAAAAciTAAAAciTAABAciTAAAAciUAAAAciUAABAciUAAAAciVAAAAciVAABAciVAAAAciWAAA",
   "AciWAABAciWAABAciXAABAciYAABAciZAABAcjAAAAAcjBAAAAcjBAABAcjBAAAAcjCAAAAcjCAABAcjCAAAAcjDAAAAc",
   "jDAABAcjDAAAAcjEAAAAcjEAABAcjEAAAAcjFAAAAcjFAABAcjFAAAAcjGAAAAcjGAABAcjGAAAAcjHAAAAcjHAABAcjH",
   "AAAAcjIAAAAcjIAAAAcjIAAAAcjPAAAAcjPAAAAcjPAABAcjPAAAAcjQAAAAcjQAABAcjQAAAAcjRAAAAcjRAABAcjRAA",
   "AAcjSAAAAcjSAABAcjSAAAAcjTAAAAcjTAABAcjTAAAAcjUAAAAcjUAABAcjUAAAAcjVAAAAcjVAABAcjVAABAcjWAABA",
   "cjXAAAAcjYAAAAcjYAAAAcjYACcjSciKACcjSciKACcjSciLACcjSciLACcjSciNACcjSciNACcjSciPACcjSciPEAbFA",
   "bHAAZAdTAAbJAdNAABApsVAAAAbUAABAsfCAAAAseRAAAAsoHAAAAsnYAAAAskVAAAAskXAAAAskZAAAAslBAAAAslDAA",
   "AAsnJAAAAsnLAAAAsnNAAAAsmDAAAAsoIAAAAskWAAAAskYAAAAslAAAAAslCAABAslEAAAAslHAAAAslJAAAAslLAAAA",
   "slNAAAAslPAAAAslRAAAAslTAAAAslVAAAAslXAAAAslZAAAAsmBAAAAsmEAAAAsmGAAAAsmIAAFAsmKAAAAsmSAAAAsm",
   "VAAAAsmYAAAAsnBAAEAsnEAAAAsnKAAAAsnMAAFAsnOAAAAsnVAAAAsnZAABAskNBABAglKAAAAgrYAAAAglMAABAgsAA",
   "ACAglNAAFAgsEAAAAgmKAACAglQAAAAgmRAAJAglTDAFAgpDCAFAgpJCAFAgpPCACAgpVDABAgGAAAAgQACbGbdSAAAAg",
   "KAAAAgJAAAAmjPBAAAoaKAADAmsMAAAAogMAAAAoiDboBAbNAdunOfGAbJAduuIgAAKAdvbRBAOAdvcDBAGAdvcTBABAd",
   "vdBsXABAbbSAAAAiWAAAAzPAAAAwXBAAAzZAAAAcmxQAAAAbaBAAAAbaAAABAxAAAAAlfDAAAAxCAAAAxIAAAAbaFAAAA",
   "xOAAAAxMAAAAxKAAAAzRAAAAlJAAAAzSAAAAxRAAAAyUAABAbaGAAAAxWAAAAgzkMAAAAcllUAAAAxYAAAAgzkNAAAAzE",
   "AAAAgzkOAAAAjOAABAyGAAAAeJAAAAyKAAAAgzkQAABAyNAAAAyQAAAAbaEAAAAbaCAAAAcmxRAAAAbaDAAAAyYAAAAqv",
   "PBAAAzFAABAzXAAAAzOAACArGAAAAgzkSAAAAgzlMbuZAbYAdxuEgBAVAdyaYegOAbFAeciIbgjWAbFAfitKbjuCAZAdT",
   "AAJAbWbrGCgufVgugJACgufWgugJADgufWgugJgugSADgufWgugJgugTADgufWgugJgugUADgufWgugJgugVADgufWgug",
   "JgugWdICgujPgugJACgujQgugJADgujPgugJgugSADgujQgugJgugSADgujPgugJgugTADgujQgugJgugTwDAZAdTAAZA",
   "dTAAZAdTAAGAdTBARAeBAAZAdTAAZAdTAABBdTAAAAdWCAAAdZCABAeCCADAeGBAHAeLAADAdTBABBdYAAFAeBBAKAeIA",
   "AZAdTAAZAdTAABAdTBADAdWCAHAeCBAGAeLBAZAdTAABAdTBADAdWBAEAeBBAAAeHDAGAeLBAZAdTAAZAdTAAZAdTAAZA",
   "dTAAZAdTAAZAdTAAZAdTAAZAdTAAZAdTAAZAdTAAZAdTAAZAdTAAZAdTAAAAlTAAAAvVCAQAbkJAAAAbkQAAGAblBAAAA",
   "mxBAAQAbkJAAAAblBAAGAblBAAAAmwWAAAAbkNAAAAbkQAAAAbkSAAAAblEAAAAbkZAAAAbkYAAQAbkJAAAAbkQAAGAbl",
   "BAAAAmxBAAQAbkJAAAAblBAAGAblBAAAAmwWAAAAbkNAAAAbkQAAAAbkSAAAAblEAAAAbkZAAAAbkYAAQAbkJAAAAbkQA",
   "AGAblBAAAAmxBAAQAbkJAAAAblBAAGAblBAAAAmwWAAAAbkNAAAAbkQAAAAbkSAAAAblEAAAAbkZAAAAbkYAAQAbkJAAA",
   "AbkQAAGAblBAAAAmxBAAQAbkJAAAAblBAAGAblBAAAAmwWAAAAbkNAAAAbkQAAAAbkSAAAAblEAAAAbkZAAAAbkYAAQAb",
   "kJAAAAbkQAAGAblBAAAAmxBAAQAbkJAAAAblBAAGAblBAAAAmwWAAAAbkNAAAAbkQAAAAbkSAAAAblEAAAAbkZAAAAbkY",
   "AAAAbmBAAAAbmBCAJAbWAAJAbWAAJAbWAAJAbWAAJAbWdcQAIAbpGAACAbpQAAKAbpUAAAAbqHAABAbqJAAAAclbTAAAA",
   "bvTAAAAbqSAAAAbqUAAAAbwJAAAAbuDAAAAbvJAAIAbpGAABAbpQAABAbpUAAAAbpXAAFAbpZAABAbqGAAAAbsZAAAAbq",
   "SAAAAbqRAAAAbrBAAAAbtZAAAAckzPAAAAbuFdgKAbHAhdgCbvYABAciPAAAAciUAAAAciXBAAAcjWAAAAcjAAAAAciVA",
   "AAAcjFAAAAcjYAADAcjRAAAAcjBAAAAcjHAAAAcjPAAAAcjDAAAAcjQAAAAciZAAAAcjCAABAciSAAAAciWAAAAciYAAA",
   "AcjEAAAAcjGAAAAcjIAAAAclIAAAAcoGAAAAcnHAAAAclJBAAAciQAAAAciUBAAAcjVCAAAciVBAAAcjYAADAcjRAAAAc",
   "jBAAAAcjHAAAAcjPAAAAcjDAAAAcjQBAAAcjCAABAciSAAAAciWBAAAcjEBAAAcjIGAAAciUEAAAciVBAAAcjYBABBcjS",
   "AAAAcjBAAAAcjHBAAAcjDAAAAcjQBAAAcjCCAAAciWBAAAcjEBAAAcjIBAAAcoGBAAAclJBAAAciQAAAAciUBAAAcjVCA",
   "AAciVAAAAcjFAAAAcjYAABBcjRAAAAcjUAAAAcjBAAAAcjHAAAAcjPAAAAcjDAAAAcjQBAAAcjCAABAciSAAAAciWBAAA",
   "cjEAAAAcjGAAAAcjIAAAAclIBAAAcnHBABAciPAAAAciUAAAAciXAABAcjVAAAAcjAAAAAciVAAAAcjFAAAAcjYBACAcj",
   "SAAAAcjBAAAAcjHAAAAcjPAAAAcjDAAAAcjQAAAAciZAAAAcjCAABAciSAAAAciWAAAAciYAAAAcjEAAAAcjGAAAAcjIF",
   "AAAciQAAAAciUAAAAciXBAAAcjWAAAAcjAAAAAciVAAAAcjFAAAAcjYBACAcjSAAAAcjBAAAAcjHAAAAcjPAAAAcjDAAA",
   "AcjQAAAAciZAAAAcjCAABAciSAAAAciWAAAAciYAAAAcjEAAAAcjGAAAAcjIwJCbWbSACbXbSACbYbSACbZbSACcAbSAC",
   "cBbSACcCbSACcDbSACcEbSACcFbSFDbOdTbPADbOdUbPADbOdVbPADbOdWbPADbOdXbPADbOdYbPADbOdZbPADbOeAbPA",
   "DbOeBbPADbOeCbPADbOeDbPADbOeEbPADbOeFbPADbOeGbPADbOeHbPADbOeIbPADbOeJbPADbOeKbPADbOeLbPADbOeM",
   "bPADbOeNbPADbOeObPADbOePbPADbOeQbPADbOeRbPADbOeSbPADsfKeLsfLAAAAdVAAAAeKACdVdWACePeSBAZAdTACe",
   "AeOACeFeOACeLdWACeLeLADeIeIeOACePdVbACeFdVACeFdWACeFeKbJCdWeCeHCsjJshNACslNslNAAAAslPNAAAblfV",
   "AAAAbipJAAAAbftCAAAAsmHAAAAbdtKAAAAbhtIAAAAcafRAAAAbhtXAAAAbduIAAAAbmrOAAAAbqvXAAAAbmmJAAAAbf",
   "eJAAAAbkeUAAAAbewZAAAAbmnGAAAAbfcNAAAAbvlIAAAAbsjFAAAAcbgZAAAAbhrSAAAAbfxHAAAAbqbSAAAAbliRAAA",
   "AblqBAAAAbdoAAAAAbdoJAAAAccqSAAAAbjoOAAAAbdpTAAAAbfuPAAAAblnBAAAAcboQAAAAblgDAAAAbuaJAAAAbujY",
   "AAAAbfvKAAAAbpwAAAAAbnaNAAAAbnaMAAAAbsjZAAAAbffUAAAAbglYAAAAcdaREDsfKbnbWsfLADsfKbdoJsfLADsfK",
   "bdtKsfLADsfKbirHsfLADsfKbqrXsfLADsfKblgDsfLADsfKbtaDsfLADsfKbfjXsfLADsfKbmjVsfLHAAAbkfFAAAAbf",
   "uLdqSAJAbWdrlMAAAbdqJAAAAbdqEAAAAbdqNAAAAhmiKAAAAbebOAAAAbeeOAAAAbefBAAAAbehUAAAAbemKAAAAbenP",
   "AAAAbeqPAAAAbepRAAAAtyCAAAAhogOAAAAbeuNAAAAbeuUAAAAbevKAAAAbewDAAAAhnvOAAAAtzDAAAAbevNAAAAbew",
   "ZAAAAhnxJAAAAbexJAAAAbexWAAAAbdvWAAAAbeyEAAAAbeyNAAAAjpdNAAAAbfaZAAAAbfbNAAAAuaPAAAAbfdRAAAAb",
   "feCAAAAbffUAAAAbffZAAAAucRAAAAbfjBAAAAbfjDAAAAbfkEAAAAbflAAABAbflLAAAAbfmDAAAAbfoBAAAAbfoJAAA",
   "AbfoSAAAAbfpRAAAAbfqBAAAAbfqDAAAAbfqDAAAAbfqDAAAAhptKAAAAbqpCAAAAbftAAAAAbftVAAAAhqfJAAAAbfuH",
   "AAAAbfuNAAAAbfvIAAAAbgbEAAAAbfxGAAAAbfxWAAAAbfzCAAAAbgbIAAAAbgeOAAAAbgfOAAAAbgiDAAAAbgiTAAAAb",
   "gkAAAAAbgkAAAAAbgkVAAAAbglNAAAAbglVAAAAbgmKAAAAbgzMAAAAbgpAAAAAbgzNAAAAbgrXAAAAbgtGAAAAbfbRAA",
   "AAbhrQAAAAbhgOAAAAbhiAAAAAbhiZAAAAbhdZAAAAbhkKAAAAbhkJAAAAbhpCAAAAhtuYAAAAbhrUAAAAbhrZAAAAbhs",
   "OAAAAbhtIAAAAbhtQAAAAbhwCAAAAhumIAAAAhuoWAAAAbibKAAAAbidFAAAAbidRAAAAbiaQAAAAbigCAAAAuuWAAAAu",
   "vKAAAAbimIAAAAbioKAAAAbioKAAAAhvrCAAAAbitNAAAAbiuIAAAAbiuXAAAAbivJAAAAhweAAAAAbivVAAAAbiwCAAA",
   "AbkcPAAAAbixEAAAAvaNAAAAbizOAAAAbjaCAAAAbjdGAAAAbjbHAAAAhxfOAAAAbjiHAAAAhxfQAAAAbjjYAAAAbjjVA",
   "AAAbjkMAABAbjoJAAAAvhFAAAAbjpLAAAAbjrCAAAAbjrXAAAAbjtPAAAAvjEAAAAhypFAAAAvkEAAAAbjwIAAAAbjwLA",
   "AAAbjwOAAAAbjxIAAAAjvvUAAAAbjzIAAAAhzfTAAAAhzfTAAAAbxgBAAAAbkaSAAAAbkaSAAAAvnBAAAAifcQAAAAiwy",
   "SAAAAbkdEAAAAbkdNAAAAvoDAAAAbkfIAAAAbkhHAAAAbkhRAAAAbkiZAAAAbkoFAAAAvrMAAAAvqIAAAAbkoYAAAAiap",
   "OAAAAbkqXAAAAbkvWAAAAbkwAAAAAbkwCAAAAbkwAAAAAbkxUAAAAbkyOAAAAbkzYAAAAbkzKAAAAbkzVAAAAblbQAAAA",
   "blcKAAAAblcOAAAAbldOAAAAbldZAAAAblgNAAAAbljTAAAAbllCAAAAblpWAAAAicfCAAAAblpDAAAAblmQAAAAblqUA",
   "AAAblrVAAAAblvOAAAAicnXAAAAblxYAAAAbluJAAAAbltHAAAAwaWAAAAbmaRAAAAbmbMAAAAbmcRAAAAbmbFAAAAwdG",
   "AAAAbmjNAAAAbmkQAAAAiecGAAAAbmpFAAAAbmzWAAAAbmtDAAAAwjXAAAAbmvXAAAAwjGAAAAwhWAAAAbexEAAAAbexH",
   "AAAAbnaEAAAAbmwIAAAAbwsZAAAAzsBAAAAbnbBAAAAbnbFAAAAbnbLAAAAbndUAAAAbndJAAAAifmXAAAAwlTAAAAbnj",
   "UAAAAbnfHAAAAbnnEAAAAbnpDAAAAiftLAAAAbnpMAAAAbnlFAAAAbnuQAAAAwoZAAAAbnwKAAAAboaDAAAAbocWAAAAb",
   "okEAAAAigpFAAAAbomDAAAAwtSAAAAbooVAAAAihjBAAAAboqUAAAAwvUAAAAborYAAAAbotRAABAbouSAAAAiibTAAAA",
   "hwxFAAAAiifYAAAAbpaKAAAAiixGAAAAbpeTAAAAbpfHAAAAbpbJAAAAbpiCAAAAbpjQAAAAbplVAAAAbpjTAAAAbplHA",
   "AAAbplWAAAAbpmJAAAAijbAAAAAbpjGAAAAbpsXAAAAbpvIAAAAxePAAAAbpyXAAAAbpyTAAAAijrTAAAAbpqVAAAAbqf",
   "EAAAAijxEAAAAijzAAAAAbqiOAAAAbqmZAAAAbqlYAAAAbqlVAAAAxiKAAAAbqnQAAAAbqpPAAAAbqpJAAAAbqrLAAAAh",
   "nvXAAAAbqxHAAAAilaXAAAAbraQAAAAilnNAAAAbrgAAAAAbrgNAAAAbrhOAAAAimkUAAAAbrjKAAAAbrkFAAAAimwJAA",
   "AAineYAAAAbrtAAAAAbrtRAAAAxtCAAAAbruRAAAAxtOAAAAxtOAAAAbsaXAAAAbsbSAAAAbscNAAAAbsdHAAAAbsfYAA",
   "AAxxJAAAAbsjKAAAAiotQAAAAbskKAAAAioxEAAAAbsmIAAAAhyqHAAAAbssMAAAAiqbHAAAAiqcEAAAAiqhOAAAAygAA",
   "AAAygMAAAAbtbGAAAAiqoHAAAAiqoGAAAAiqpTAAAAiqqTAABAbtcWAAAAbtcXAAAAbteOAAAAyiJAAAAbthBAAAAyiWA",
   "AAAylYAAAAirtLAAAAbtoOAAAAbtqYAAAAbttKAAAAyoXAAAAisnMAAAAbtySAAAAisrYAAAAistPAAAAbuaXAAAAbueL",
   "AAAAyrVAAAAbuhSAAAAbuiCAAAAbuiHAAAAituIAAAAiufVAAAAiufVAAAAbuoKAAAAyzYAAAAiupVAAAAbuwSAAAAbuw",
   "VAAAAzbJAAAAiuyAAAAAbvhAAAAAzgAAAAAbvhWAAAAbvhRAAAAbviUAAAAiwbUAAAAbvmPAAAAzjTAAAAbvqLAAAAbvs",
   "SAAAAbvvHAAAAzlSAAAAixbSAAAAixcXAAAAznDAAAAixiNAAAAbwhEAAAAixmKAAAAbwiFAAAAbwmCAAAAbwmNAAAAiy",
   "cGAAAAiyfBAAAAbwqAAAAAiykEAAAAbwqQAAAAifjBAAAAzrXAAAAbwtEAAAAbwwHAAAAztZAAAAbwyOAAAAbijDAAAAi",
   "zdVAAAAizeJAAAAiflBAAAAiflKAAAAbxgBAAAAbxgEAAAAcckCAAAAzxRAAAAbxlPAAAAbxlJAAAAbxmBAAAAbfiHAAA",
   "AbxmVAAAAbxmXAAAAbxnHAAAAbxoWAAAAjanCAAAAbxoVAAAAbxqZAAAAbxtRAAAAbxwNAAAAbxrFAAAAbxxDAAAAbxyT",
   "AAAAbydBAAAAbxtBAAAAbxxQAAAAbxxSAAAAbxyIAAAAjawSAAAAjbiPAAAAjbcVAAAAbafBAAAAbyiZAAAAbyjBAAAAb",
   "ykKAAAAjdtIAAAAbynKAAAAjbzWAAAAbagZAAAAbahDAAAAjceZAAAAjcqCAAAAbahNAAAAbywMAAAAbywYAAAAbyxJAA",
   "AAbyxLAAAAbyzXAAAAbyyQAAAAbzdUAAAAbzcCAAAAbzhXAAAAbzeUAAAAbzhJAAAAbziKAAAAbalRAAAAbzlXAAAAbzn",
   "DAAAAbamZAAAAbzqUAAAAbzqXAAAAjetBAAAAbzvJAAAAbzvQAAAAbapHAAAAbzwSAAAAtzFAAAAjfpMAAAAjfwOAAAAb",
   "auOAAAAbauXAAAAcamYAAAAcapXAAAAcavYAAAAcbdTAAAAjhcQAAAAcbhBAAAAcbhXAAAAcblJAAAAcboXAAAAjibNAA",
   "AAhoyEAAAAcbsDAAAAcbrOAAAAcbtOAAAAhpgOAAAAcccIAAAAccgEAAAAjkoWAAAAjkpXAAAAcctOAAAAccxDAAAAccy",
   "JAAAAjlcGAAAAccyTAAAAcdjSAABAcdpVAAAAcdmIAAAAceaZAAAAcecBAAAAjmxMAAAAceqLAAAAbbwNAAAAcesDAAAA",
   "jnmDAAAAbbzQAAAAcfcLAAAAbjmOAAAAcfgDAAAAjoxPAAAAjpfUAAAAbceWAAAAbcfEAAAAcfnKAAAAjpyWAAAAbchMA",
   "AAAjqeGAAAAcfpBAAAAcfpBAAAAcfqFAAAAjqpIAAAAcfxIAAAAbcmLAAAAcgaBAAAAcgeXAAAAcgfYAAAAcgiGAAAAbc",
   "sKAAAAjsrGAAAAcgsWAAAAcheMAAAAchlTAAAAbdcGAAAAbddLAAAAchpVAAAAjuuOAAAAbddWAAAAjuwRAAAAjvgWAAA",
   "AjvlXAAAAcicXAAAAbdhMAAAAcifHAAAAcifMAAAAcifTAAAAcigDAAAAcigKAAAAcihVAAAAjwtS"]

/-- What becomes of characters that may not stay. -/
def hostMappings : List HostMapping :=
  let numbers := CharSet.readRuns hostMappingRuns
  HostMapping.ofNumbers 0 numbers.length numbers

/-- The characters that may stay as they are. -/
def hostChars : CharSet :=
  .ofRuns
    ["AcMbAbKbHGBABBBABBEBDADAXAHbGBABABABABABABABABABABABABABABABABABABABABABABABABADABBBABABADA",
     "BABABACABABABABABABABABABABABABABABABABABABABABABABACABABABACABACADBEACADCCACABABACABBBACAD",
     "ABACCBGKABABABABABABABBBABABABABABABABABBEADABABABABABABABABABABABABABABABABABABABABABABABA",
     "BABABABABABGCACBBAEABABABABdSJbEGBFdMCADIBbFBABABABADCSAbBbIIABABABABABABABABABABABABADACAB",
     "ACBbZbVBABABABABABABABABABABABABABABABABIBABABABABABABABABABABABABABABABABABABABABABABABABA",
     "BABACABABABABABABBBABABABABABABABABABABABABABABABABABABABABABABABABABABABABABABABABABABABAB",
     "ABABABABABABABABABABABAbPbTBCCCBcCIbAEFRVBdJEdVBbVCcGCdWOcGCbWCOBbBCABKFbEIcWBeMIbJBHCBCVBG",
     "BADDCICBCDIAIDCYCCBFEBCVBGBACACBCABEEBCCDAKAJQKCBIBCBVBGBBBECJBCBCCAPDCLHGBCBHCBCVBGBBBECIC",
     "BCCHCHECRKBBFDCBDDBBABBDBDCDLEEDCBDCAGAOUFMBCBWBPCIBCBDHBBCCACDCJHVBCBWBJBECIBCBDHBGBBDCJBC",
     "MMBCBbYBCBFEPCZBCBRDXBIBACGDAEFBABHGJCCMbXBGEbCbLBBABEBXBABLBJCEBABGBJEBbGLBcBBDBDBDBDBDBLB",
     "CEBBAFGBQBDBDBDBDBDBLBCBOBMbLgDbWbRBdTCiXBDCGBABDCbOBDCbGBDCGBABDCOBcEBDCcOCbFDZGdHKyPBbBDd",
     "KHVJXJTMMBCBBMbZCbNCJGJGKFJGdKHbQFcRKbEBLELEADbPCELbREZGKDcJCcMBbCCKGJGNCbEbXcYBgJIcHDODbYK",
     "AcBHIbQFbRDALASAbCMBbHbLcLBABABABABABABABABABABABABABABABABABABABABABABABABABABABABABABABAB",
     "ABABABABABABABABABABABABABABABABABABABABABABABABABABABABABABABABABABABABABABABABABABECBBABA",
     "BABABABABABABABABABABABABABABABABABABABABABABABABABABABABABABABABABABABABABABABABABABABABAB",
     "ABIIFKHIHIFKHIHIABABABABABABAbZBEAPAJCDBICBDOAVBCABEBLDAICCACDBABHDMBGcNHBXPbGTADALACBFBDAB",
     "ABABAEALAGDFFbWCBEBBEfZCACjNCjUWKgEbyMBdYDdWBfUCbFBeAbWbVBADBBABABAEABBBFFABABABABABABABABA",
     "BABABABABABABABABABABABABABABABABABABABABABABABABABABABABABABABABABABABABABABABABHBABDBAFbS",
     "BAFACcDIAOXJGBGBGBGBGBGBGBGBeVbIZBDBdEkKABbYBADEBdHCBCBBdQGbQdSBOcRKPcUHbVAoUbqqEDcCJnJVABA",
     "BABABABABABABABABABABABABABABABABABABABABSBABABABABABABABABABABABABABACdLIbHBABABABABABABCB",
     "ABABABABABABABABABABABABABABABABABABABABABABABABABABABABABABABHBABACABABABABDBABBBABCBABABA",
     "BABABABABABABAFAFABABABABABABABAEABACADABABABABABAbABCbYDJGcDIcRILGeLLbDDcZBKEbGBcCJNCJCdYY",
     "bBKFCFCFJGBGBbREIBBdGbTCJGqnRMWEbWmxMBBABBKABABBCCjKAfRQoPReXAbTCbGPVBbSApGLBZBSBBBOCNbIeSF",
     "CEbSDdJBMDAbVbTfAbCDbWPbBEbJJbDFbQFbDBbKENdEeNCJbUbJEbNIbZLAbNKBOBGBBDbZMlYJVKHYAeXFCABbRBB",
     "DACWBcTIIbWSBBFbGDbAFAcMcDETCbXBBFHBCBbCCCEJHIHcLbGbMELJcBDbCCbAFZHDMGdCcUePbYHbTIJGPZbCIBi",
     "AbEBbPBCCBQCcDbRIbPWZbMbBUWJcZEbJJcJBENYHJGcABRIbMJdRBTLRBbUcKGBABDBOBKGcGFJGDBHCBCVBGBBBEB",
     "JCBCCCAGAFGCGDELJBACABbLBJBACABDBJBBIBbDdNBEbEcTIJgKcBCbLbIcQLJGMTcFGJGTbCbACOEWhDcHfCbYMHC",
     "ACHBBBbDBBCLJJcSHCbTCKbBcTIdENcUHJhAbHOJGIBbSBNKbCDbFCVBNcVGBBBbRDABBBIIJGFBBBbKBBBFHJlYYHQ",
     "BbODbCdHAPbXNbjMdYeGBELhNdxKdUNbpFQVKfxQFwKkdDcFcoSvWHbEBJEdCBJGbDCFKcRKJBGBUFSqQcFiWcGdXcW",
     "EcEHQcMELBOjbZIbvPbPJnfRDBGBBBlEPAbDCCAODIpFdkUeCFMDIHJCDfvKiFbQqTcYbTCWJeLcIjLKbMCcAHNIcLG",
     "bPVcReSTMTMdIJYbsPzBPEBObqMbEGFiFGBQCGBBBEdWAeIbSDNCJEBmIbERcFFArWbPiGbQEAsMGBDBBBOBhOCPcXb",
     "PEJEBbeFcPcYcIqSBkKbREdVMOCOBOBbKVEbFAbGZDbIBbCcEZdSFfYblVEQDMDeOEdQGLEAPLEcDIJGbNIbDCLEBcK",
     "nBMNCMDJFcDHOCKGIHfQBdNboAclfBbGgdTGiNCinPOlbKPxXgrQhhYFgfF"]

def hostGaps : CharSet :=
  .ofRuns
    ["gRAzXAfiLBckHBdHEdaPAdGEFFgkYAczmPPjFAgEActoXDhwXHbtljHjF"]

/-- What becomes of a character; nothing if it may not stand in a name. -/
def hostForm? (c : Char) : Option (List Char) :=
  if hostChars.mem c then some [c]
  else if hostGaps.mem c then some []
  else (hostMappings.findSome? fun m => m.image? c.toNat).map fun ns => ns.map Char.ofNat

end DocCheck.Format
