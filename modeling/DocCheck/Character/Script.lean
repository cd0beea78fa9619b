/-!
# Scripts

Every character belongs to a script, such as Greek or Han, or to those that are common to many. Some
are used in further scripts. Each entry gives the names of a script in lower case without
separators, and its characters as run lengths.

* `Character.scriptTable` — the characters of each script;
* `Character.furtherScriptTable` — the characters of others that a script uses too.
-/

namespace DocCheck.Character

/-- The characters that belong to each script. -/
def scriptTable : List (List String × List String) := [
  (["adlam", "adlm"],
    ["hdeUcXEJEB"]),
  (["ahom"],
    ["ebrCbACOEW"]),
  (["anatolianhieroglyphs", "hluw"],
    ["essEwK"]),
  (["arabic", "arab"],
    ["chCEBFBNBCBbFBJLZBeDBbHdCbVjGbEBBFcWBbCdntWeKQnYCdBCcBHAbGPeIEBfEfvNbEcPCcDDdglSDBbABBBACAB",
     "JBDBABAGAEABABABCBBBACABABABABABBBACDBGBDBDBABJBQFCBEBQcAB"]),
  (["armenian", "armn"],
    ["bzDbLCbXCCdozJE"]),
  (["avestan", "avst"],
    ["dxcYcBDG"]),
  (["balinese", "bali"],
    ["kfWcYBbX"]),
  (["bamum", "bamu"],
    ["clcQdJcvcQvW"]),
  (["bassavah", "bass"],
    ["fhkIbDCF"]),
  (["batak", "batk"],
    ["knGbZID"]),
  (["bengali", "beng"],
    ["dpODBHCBCVBGBADDCICBCDIAEBBECY"]),
  (["bhaiksuki", "bhks"],
    ["edoIIBbSBNKbC"]),
  (["bopomofo", "bopo"],
    ["bcSBrlXbQeIbF"]),
  (["brahmi", "brah"],
    ["dzaEcZEbJJA"]),
  (["braille", "brai"],
    ["pdWjV"]),
  (["buginese", "bugi"],
    ["jwAbBCB"]),
  (["buhid", "buhd"],
    ["iuYT"]),
  (["canadianaboriginal", "cans"],
    ["hoYyPvOcRdtpQP"]),
  (["carian", "cari"],
    ["dtyMbW"]),
  (["caucasianalbanian", "aghb"],
    ["duxSbZLA"]),
  (["chakma", "cakm"],
    ["dzkAcABR"]),
  (["cham"],
    ["cmjWcCJNCJCD"]),
  (["cherokee", "cher"],
    ["hlGdHCFcfjEdB"]),
  (["chorasmian", "chrs"],
    ["dyxCbB"]),
  (["common", "zyyy"],
    ["AcMbAFbAbUBOBEXAbFArHbMFECTeMAJAGABAyNAGAOADAbGAgAAtWAeZBbvTApPDlEAcgLCcTBhVBBAbvHANAHDBFBC",
     "CAbdTLCdIBKDKBORbGcLbLBCCFBbABQbPCEzPWKVbjRjWyDCbFBeAtSdPpMUBABYPHEDdNBDAdMBfRPbGbLJAbWcLbF",
     "dCbVAdKgLjtOcLbhsIbHdYCgJJjKAgEApFAOBbezQBiAJWbIBSBDfRABbFbAFbAKKAbTBcMGBGKEjYCEbSDIdCMbZbS",
     "iUbAcshWDfvGjPGqTgAeLcIjLKbMCcJDQIBHbDEcIiFTMTMdIJYfFdGBcSBBCACBCDBLBABGBcMBDCHBGBbBBDBEBAD",
     "GBnBClFCbXhtHcPcYcIbbEbREdVMOCOBOBbKKgRcEZBBNbREIHBOFfYblVEQDMDeOEdQGLEAPLEcDIJGbNIbDCLEBcK",
     "nBMNCMDJFcDHOCKGIHfQBdXbsuxBAbEdR"]),
  (["coptic", "copt", "qaac"],
    ["bmGNpjKeLFG"]),
  (["cuneiform", "xsux"],
    ["efbSbjLdYeGBELhN"]),
  (["cypriot", "cprt"],
    ["dvzKFCABbRBBDACA"]),
  (["cyprominoan", "cpmn"],
    ["ekyYdU"]),
  (["cyrillic", "cyrl"],
    ["bnKfCCgMivOKgEAcYAgfNbFbtoAdRbheCBdhpGcJbHA"]),
  (["deseret", "dsrt"],
    ["dumAdB"]),
  (["devanagari", "deva"],
    ["dkQdCEOCZcijGbFbreMJ"]),
  (["divesakuru", "diak"],
    ["eckUGCACHBBBbDBBCLJJ"]),
  (["dogra", "dogr"],
    ["ecaYcH"]),
  (["duployan", "dupl"],
    ["gmdSeCFMDIHJCD"]),
  (["egyptianhieroglyphs", "egyp"],
    ["eldGbqRKfxQ"]),
  (["elbasan", "elba"],
    ["duvWbN"]),
  (["elymaic", "elym"],
    ["dyyYW"]),
  (["ethiopic", "ethi"],
    ["gvGcUBDCGBABDCbOBDCbGBDCGBABDCOBcEBDCcOCbFDZjvAWJGBGBGBGBGBGBGBGbvkCFCFCFJGBGepyFGBDBBBO"]),
  (["garay", "gara"],
    ["dxzCbLDbCIB"]),
  (["georgian", "geor"],
    ["ghSbLBAFACbQBDejWbQCCgeAbLBAFA"]),
  (["glagolitic", "glag"],
    ["qrGdRgizGGBQCGBBBE"]),
  (["gothic", "goth"],
    ["dueAbA"]),
  (["grantha", "gran"],
    ["eadSDBHCBCVBGBBBECICBCCCAGAFGCGDE"]),
  (["greek", "grek"],
    ["bhWDBCCDBAEABABCBABTBcKOPjnQEbYEEEdGAmIVCFCbLCFCHBABABABbECcABOBNCFBSCCBIlJAcajEAbgnIdARAda",
     "xRcR"]),
  (["gujarati", "gujr"],
    ["dzLCBIBCBVBGBBBECJBCBCCAPDCLHG"]),
  (["gunjalagondi", "gong"],
    ["eebWFBBBbKBBBFHJ"]),
  (["gurmukhi", "guru"],
    ["duNCBFEBCVBGBBBBBBCABEEBCCDAHDBAHQ"]),
  (["gurungkhema", "gukh"],
    ["fdrScF"]),
  (["han", "hani"],
    ["rpWZBdKMiFbVABAZIODblCjtNcMbfbJbhsIoBCeBbsiIBMBccoKclfBbGgdTGiNCinPOlbKPxXdqWuVcfYhhYFgfF"]),
  (["hangul", "hang"],
    ["glKjVllEBjXdPeJbEcNbEbtaNbCyTqnRMWEbWpaIbEDFCFCFCC"]),
  (["hanifirohingya", "rohg"],
    ["dxwQbNIJ"]),
  (["hanunoo", "hano"],
    ["itSU"]),
  (["hatran", "hatr"],
    ["dwiASBBFE"]),
  (["hebrew", "hebr"],
    ["ccVcCIbAEFdovWZBEBABBBBBJ"]),
  (["hiragana", "hira"],
    ["shDdHGCfpeVlASAbDCymVA"]),
  (["imperialaramaic", "armi"],
    ["dwbWVBI"]),
  (["inherited", "zinh", "qaai"],
    ["bdOeHkRBrKKbAAbcIDgoXbEtTCBMBGEAGADBhQcLuEBhMbGftXDeDBczuJPQNblNAiSAgfAActcUbTCWuYCRHCGbEDb",
     "tlhIjF"]),
  (["inscriptionalpahlavi", "phli"],
    ["dxgQSFH"]),
  (["inscriptionalparthian", "prti"],
    ["dxfKVCH"]),
  (["javanese", "java"],
    ["cmeYcZCJEB"]),
  (["kaithi", "kthi"],
    ["dzfCcOKA"]),
  (["kannada", "knda"],
    ["etCMBCBWBJBECIBCBDHBGBBDCJBC"]),
  (["katakana", "kana"],
    ["skVdLCCjGPiAbUBdJczhEJBbScouCDBGBBBAlBCbYAOD"]),
  (["kawi"],
    ["eerWQBbODbC"]),
  (["kayahli", "kali"],
    ["cmaAbTBA"]),
  (["kharoshthi", "khar"],
    ["dwtCDBBFHBCBbCCCEJHI"]),
  (["khitansmallscript", "kits"],
    ["fjiIAkgXsBbPA"]),
  (["khmer", "khmr"],
    ["ixKdPCJGJsSbF"]),
  (["khojki", "khoj"],
    ["dztWRBbU"]),
  (["khudawadi", "sind"],
    ["eaaQcGFJ"]),
  (["kiratrai", "krai"],
    ["fiiIcF"]),
  (["lao", "laoo"],
    ["fmVBBABEBXBABWCEBABGBJCD"]),
  (["latin", "latn"],
    ["cNZGZbVAPAFWBbEBrGbNEjxBbLGbWFDFMBcRcNjVoFANAQMfLBGAbBARbOecTbFbulMdXDcOCBBABHVNbfKbQBIBDbe",
     "dQGboKZGZdcFFBbPBIddnPbEGF"]),
  (["lepcha", "lepc"],
    ["kpScDDODC"]),
  (["limbu", "limb"],
    ["jmEbEBLELEADL"]),
  (["lineara", "lina"],
    ["dvfSlYJVKH"]),
  (["linearb", "linb"],
    ["dsyQLBZBSBBBOCNbIeS"]),
  (["lisu"],
    ["ckkUbVbumAA"]),
  (["lycian", "lyci"],
    ["dtxGbC"]),
  (["lydian", "lydi"],
    ["dwkMZFA"]),
  (["mahajani", "mahj"],
    ["dznCbM"]),
  (["makasar", "maka"],
    ["eeqQY"]),
  (["malayalam", "mlym"],
    ["eyAMBCBbYBCBFEPCZ"]),
  (["mandaic", "mand"],
    ["ddGbBCA"]),
  (["manichaean", "mani"],
    ["dxaMbMEL"]),
  (["marchen", "marc"],
    ["edsQbFCVBN"]),
  (["masaramgondi", "gonm"],
    ["edyEGBBBbRDABBBIIJ"]),
  (["medefaidrin", "medf"],
    ["fisEdM"]),
  (["meeteimayek", "mtei"],
    ["cmsMWhTbTCJ"]),
  (["mendekikakui", "mend"],
    ["hcuYhOCP"]),
  (["meroiticcursive", "merc"],
    ["dwpKXETCbT"]),
  (["meroitichieroglyphs", "mero"],
    ["dwoEbF"]),
  (["miao", "plrd"],
    ["fizOcWEcEHQ"]),
  (["modi"],
    ["ebhGcQLJ"]),
  (["mongolian", "mong"],
    ["jcIBCABTGdKHbQdscBM"]),
  (["mro", "mroo"],
    ["fheUbEBJEB"]),
  (["multani", "mult"],
    ["dzyUGBABDBOBK"]),
  (["myanmar", "mymr"],
    ["gbOgDcgaYbEdTbFbpaMT"]),
  (["nabataean", "nbat"],
    ["dweIbEII"]),
  (["nagmundari", "nagm"],
    ["hbpObP"]),
  (["nandinagari", "nand"],
    ["ecqYHCbTCK"]),
  (["newtailue", "talu"],
    ["jrCbREZGKDB"]),
  (["newa"],
    ["eanOdNBE"]),
  (["nko", "nkoo"],
    ["cyIcGCC"]),
  (["nushu", "nshu"],
    ["fjiFAyvMpF"]),
  (["nyiakengpuachuehmong", "hmnp"],
    ["haeAbSDNCJEB"]),
  (["ogham", "ogam"],
    ["inObC"]),
  (["olchiki", "olck"],
    ["ksUbV"]),
  (["olonal", "onao"],
    ["hbzKbQEA"]),
  (["oldhungarian", "hung"],
    ["dxrSbYNbYHF"]),
  (["olditalic", "ital"],
    ["ducEbJJC"]),
  (["oldnortharabian", "narb"],
    ["dwyAbF"]),
  (["oldpermic", "perm"],
    ["dufGbQ"]),
  (["oldpersian", "xpeo"],
    ["duiIbJEN"]),
  (["oldsogdian", "sogo"],
    ["dyqIbN"]),
  (["oldsoutharabian", "sarb"],
    ["dwwUbF"]),
  (["oldturkic", "orkh"],
    ["dxmUcU"]),
  (["olduyghur", "ougr"],
    ["dyuQZ"]),
  (["oriya", "orya"],
    ["eeJCBHCBCVBGBBBECICBCCHCEBBECR"]),
  (["osage", "osge"],
    ["dusUbJEbJ"]),
  (["osmanya", "osma"],
    ["duqYbDCJ"]),
  (["pahawhhmong", "hmng"],
    ["fhmEcRKJBGBUFS"]),
  (["palmyrene", "palm"],
    ["dwdCbF"]),
  (["paucinhau", "pauc"],
    ["edcAcE"]),
  (["phagspa", "phag"],
    ["clsQcD"]),
  (["phoenician", "phnx"],
    ["dwjGbBDA"]),
  (["psalterpahlavi", "phlp"],
    ["dxhWRHDMG"]),
  (["rejang", "rjng"],
    ["cmbWbJLA"]),
  (["runic", "runr"],
    ["ioUcWDK"]),
  (["samaritan", "samr"],
    ["daUbTCO"]),
  (["saurashtra", "saur"],
    ["clvCcRIL"]),
  (["sharada", "shrd"],
    ["dzoYdR"]),
  (["shavian", "shaw"],
    ["dupCbV"]),
  (["siddham", "sidd"],
    ["ebcIcBCbL"]),
  (["signwriting", "sgnw"],
    ["gwtKzBPEBO"]),
  (["sinhala", "sinh"],
    ["fcZCBRDXBIBACGDAEFBABHGJCCdulGT"]),
  (["sogdian", "sogd"],
    ["dysEbP"]),
  (["sorasompeng", "sora"],
    ["dziEYHJ"]),
  (["soyombo", "soyo"],
    ["ecxSdE"]),
  (["sundanese", "sund"],
    ["kkUcLjWH"]),
  (["sunuwar", "sunu"],
    ["edlWbHOJ"]),
  (["sylotinagri", "sylo"],
    ["clqEbS"]),
  (["syriac", "syrc"],
    ["cqYNBcHCCkMK"]),
  (["tagalog", "tglg"],
    ["isMVJA"]),
  (["tagbanwa", "tagb"],
    ["iwEMBCBB"]),
  (["taile", "tale"],
    ["jpGbDCE"]),
  (["taitham", "lana"],
    ["jxGcKBbCCKGJGN"]),
  (["taiviet", "tavt"],
    ["cmoUcOYE"]),
  (["takri", "takr"],
    ["ebmEcFGJ"]),
  (["tamil", "taml"],
    ["ejIBBFDCBDDBBABBDBDCDLEEDCBDCAGAOUealHbXNA"]),
  (["tangsa", "tnsa"],
    ["fhgQdABJ"]),
  (["tangut", "tang"],
    ["fjiEAbFjbZIbdNtSI"]),
  (["telugu", "telu"],
    ["eoEMBCBWBPCIBCBDHBBCCACDCJHI"]),
  (["thaana", "thaa"],
    ["cvWbX"]),
  (["thai"],
    ["fhXcFFbB"]),
  (["tibetan", "tibt"],
    ["frScTBbJEbMBbJBOBGEB"]),
  (["tifinagh", "tfng"],
    ["rcYcDHBOA"]),
  (["tirhuta", "tirh"],
    ["easMcTIJ"]),
  (["todhri", "todr"],
    ["dvdGbZ"]),
  (["toto"],
    ["hatKbE"]),
  (["tulutigalari", "tutg"],
    ["eaiQJBACABbLBJBACABDBJBBIB"]),
  (["ugaritic", "ugar"],
    ["duhCbDBA"]),
  (["vai", "vaii"],
    ["ckmQlN"]),
  (["vithkuqi", "vith"],
    ["dvaEKBOBGBBBKBOBGBB"]),
  (["wancho", "wcho"],
    ["havGcFFA"]),
  (["warangciti", "wara"],
    ["echCdEMA"]),
  (["yezidi", "yezi"],
    ["dylKbPBCCB"]),
  (["yi", "yiii"],
    ["cipKbsUDcC"]),
  (["zanabazarsquare", "zanb"],
    ["ecuQcT"])]

/-- The characters that a script uses although they belong to another one. -/
def furtherScriptTable : List (List String × List String) := [
  (["adlam"],
    ["ciHAbGAjwOAfhHA"]),
  (["arabic"],
    ["chOAOADAbGAKKbAAjuSAfhHAdakABcdKbB"]),
  (["armenian"],
    ["bdWA"]),
  (["avestan"],
    ["hBArfSB"]),
  (["bengali"],
    ["baYAcmUBRBhjEABACBBAIAIACAEACCcbaFA"]),
  (["bopomofo"],
    ["bbJABCNArcPCEJBMKDCAGAhNAcztHBkWE"]),
  (["buginese"],
    ["cmhZA"]),
  (["buhid"],
    ["iuNB"]),
  (["carian"],
    ["hBAlzMACAfgDA"]),
  (["caucasianalbanian"],
    ["bdSAbSAbSA"]),
  (["chakma"],
    ["dtMJckEJ"]),
  (["cherokee"],
    ["bdOCBAGBWBLB"]),
  (["coptic"],
    ["hBAwMADBBAeEBqdTAdcpCbB"]),
  (["cypriot"],
    ["dtiMCEbSDI"]),
  (["cyprominoan"],
    ["dtiMB"]),
  (["cyrillic"],
    ["baYAcPCBABABACAFAoHBjqNAgeKA"]),
  (["devanagari"],
    ["baYAcmUBRBhjEbMBBbnAAbzfRJ"]),
  (["dogra"],
    ["doMLcidCJ"]),
  (["duployan"],
    ["hBAwTBBAYBqiHAfuwPD"]),
  (["elbasan"],
    ["hBAwRA"]),
  (["ethiopic"],
    ["beCA"]),
  (["garay"],
    ["chOAOADA"]),
  (["georgian"],
    ["hBAbvLAeiRAfvIAfgGA"]),
  (["glagolitic"],
    ["hBAwPABAoSACAjXAeiRAfvIAfgYAbtnFA"]),
  (["gothic"],
    ["hBAwQBCAbOA"]),
  (["grantha"],
    ["dnTBRByQNgkAABBbECDBbnAAdntQAetWBBA"]),
  (["greek"],
    ["hBAwMBCABABAKAbUACAbUAjyXBzRA"]),
  (["gujarati"],
    ["dnTBRBcidMJ"]),
  (["gunjalagondi"],
    ["hBAdhKB"]),
  (["gurmukhi"],
    ["dnTBRBcidMJ"]),
  (["gurungkhema"],
    ["doNA"]),
  (["han"],
    ["hBArwYPBCCABJBMKDCAGAEDhFAfSPbGbLJAbWbNcEbWPLbZAdKYKEdSbEbroJHbhaZBkWEdchERlrYB"]),
  (["hangul"],
    ["seRCEJBMQAGAhNAcztHBkWE"]),
  (["hanifirohingya"],
    ["chOAOADAbGAfRA"]),
  (["hanunoo"],
    ["iuNB"]),
  (["hebrew"],
    ["bdVB"]),
  (["hiragana"],
    ["seRCEJBMQFBAEBdNDDAdMBcztGBkWEKAbTB"]),
  (["javanese"],
    ["cmhZA"]),
  (["kaithi"],
    ["doOJnxXAbufEJ"]),
  (["kannada"],
    ["dnTBRBhjEABBGAXABAcasXF"]),
  (["katakana"],
    ["bdTAbDAqzTCEJBMQFBAEBdNDDAdMBcztGBkWEKAbTB"]),
  (["kayahli"],
    ["cmbUA"]),
  (["khojki"],
    ["edIJchoIJ"]),
  (["khudawadi"],
    ["doMBcidMJ"]),
  (["latin"],
    ["hBAtWAKABCBAJABAbMOBBBAPCHBBBbMAFAEMkRBbvEBcxKAexWAvUAhKAezMAbtuMHvEA"]),
  (["limbu"],
    ["doNA"]),
  (["lineara"],
    ["dtiTbS"]),
  (["linearb"],
    ["dtiMCEbSDI"]),
  (["lisu"],
    ["baYAQArdKB"]),
  (["lycian"],
    ["mgOA"]),
  (["lydian"],
    ["hBArfTA"]),
  (["mahajani"],
    ["hBAdhKLcidCJ"]),
  (["malayalam"],
    ["dnTBRBhjOAXAcasZC"]),
  (["mandaic"],
    ["cjOA"]),
  (["manichaean"],
    ["cjOA"]),
  (["masaramgondi"],
    ["doMB"]),
  (["meroitichieroglyphs"],
    ["mgRA"]),
  (["modi"],
    ["clsAJ"]),
  (["mongolian"],
    ["jcKBBAdcJAfzTBFD"]),
  (["multani"],
    ["dyKJ"]),
  (["myanmar"],
    ["cmbUA"]),
  (["nandinagari"],
    ["dnTASBbiMJgbHAIAHAcasRF"]),
  (["newa"],
    ["dnTBhkCABBJAGABABA"]),
  (["nko"],
    ["chOAOADAdppEB"]),
  (["olonal"],
    ["doMB"]),
  (["oldhungarian"],
    ["mgOACAfgDAPA"]),
  (["oldpermic"],
    ["hBAwMAFCKAoDA"]),
  (["oldturkic"],
    ["mgOAfgFA"]),
  (["olduyghur"],
    ["cjOAdusVA"]),
  (["oriya"],
    ["dnTBRBhjOAXA"]),
  (["osage"],
    ["bdPACAGAcYA"]),
  (["phagspa"],
    ["jcKBBAdcJAfzUA"]),
  (["psalterpahlavi"],
    ["cjOA"]),
  (["runic"],
    ["irRC"]),
  (["samaritan"],
    ["rmVA"]),
  (["sharada"],
    ["dnTAhkFABACBCAJACAcatEFCA"]),
  (["shavian"],
    ["hBA"]),
  (["sinhala"],
    ["doMBhkMA"]),
  (["sogdian"],
    ["cjOA"]),
  (["sunuwar"],
    ["bdOBBAJACAbCADA"]),
  (["sylotinagri"],
    ["doMBeYJ"]),
  (["syriac"],
    ["bdRBCBBAYCHBBBbcCAOBCAbGAKKbAAixRABA"]),
  (["tagalog"],
    ["iuNB"]),
  (["tagbanwa"],
    ["iuNB"]),
  (["taile"],
    ["bdOBFBDAezZJ"]),
  (["takri"],
    ["doMBcidMJ"]),
  (["tamil"],
    ["dnTBRBhjOAcbbKAboeFABAcDB"]),
  (["tangut"],
    ["seAPtBA"]),
  (["telugu"],
    ["dnTBRBhjJBBABAXA"]),
  (["thaana"],
    ["chOAOBCAcMJdptGAKA"]),
  (["thai"],
    ["baYAbAAbRAbTA"]),
  (["tibetan"],
    ["seYD"]),
  (["tifinagh"],
    ["bdQABABDZA"]),
  (["tirhuta"],
    ["dnTBRBhjJAMAPAcasZJ"]),
  (["todhri"],
    ["bdPACACAJABAcWA"]),
  (["toto"],
    ["baYA"]),
  (["tulutigalari"],
    ["exAJgbQABAcasXFhFA"]),
  (["yezidi"],
    ["chOAOADAcMJ"]),
  (["yi"],
    ["seRBFJCHiPAdaeFE"])]

end DocCheck.Character
