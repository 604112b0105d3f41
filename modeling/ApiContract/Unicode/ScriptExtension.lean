import ApiContract.Unicode.CodePointSet

/-!
Script extensions: the characters that texts of a script use, also when other scripts share them.
-/

namespace ApiContract.Unicode

/-- The scripts, each with the characters used in it. -/
def scriptExtensions : List NamedSet := [
  ⟨["adlm", "adlam"],
    ["ciHBbGBjwOBfhHBglrIcYEKEC"]⟩,
  ⟨["aghb", "caucasianalbanian"],
    ["bdSBbSBbSBdtqNcALB"]⟩,
  ⟨["ahom"],
    ["ebrCbBCPEX"]⟩,
  ⟨["arab", "arabic"],
    ["chCFBiHBbIdCbWjGbFBCFcXBbDivNBfhHBczrAeLQrDCcCHBbGQeIFBfFbmHbCeiEbFcPDcDEdglSEBbBBCBBCBBKBEB",
     "BBBGBEBBBBBBDBCBBCBBBBBBBBBBCBBCEBHBEBEBBBKBRFDBFBRcAC"]⟩,
  ⟨["armi", "imperialaramaic"],
    ["dwbWWBJ"]⟩,
  ⟨["armn", "armenian"],
    ["bdWBvGbMCbYCDdozJF"]⟩,
  ⟨["avst", "avestan"],
    ["hBBrfSCdfqCcCDH"]⟩,
  ⟨["bali", "balinese"],
    ["kfWcZBbY"]⟩,
  ⟨["bamu", "bamum"],
    ["clcQdKcvcQvX"]⟩,
  ⟨["bass", "bassavah"],
    ["fhkIbECG"]⟩,
  ⟨["batk", "batak"],
    ["knGcAIE"]⟩,
  ⟨["beng", "bengali"],
    ["baYBcmUCRCbAEBICCCWBHBBDECJCCCEIBECBFCZhdHBBBCCBBIBIBCBEBCDcbaFB"]⟩,
  ⟨["bhks", "bhaiksuki"],
    ["edoIJBbTBOKbD"]⟩,
  ⟨["bopo", "bopomofo"],
    ["bbJBBDNBQCrbXDEKBNKECBGBhNBJbReIbGczlTCkWF"]⟩,
  ⟨["brah", "brahmi"],
    ["dzaEdAEbKJB"]⟩,
  ⟨["brai", "braille"],
    ["pdWjW"]⟩,
  ⟨["bugi", "buginese"],
    ["jwAbCCCcckTB"]⟩,
  ⟨["buhd", "buhid"],
    ["iuNCJU"]⟩,
  ⟨["cakm", "chakma"],
    ["dtMKckEKdtfQcBBS"]⟩,
  ⟨["cans", "canadianaboriginal"],
    ["hoYyQvOcSdtpQQ"]⟩,
  ⟨["cari", "carian"],
    ["hBBlzMBCBfgDBdclQbX"]⟩,
  ⟨["cham"],
    ["cmjWcDJOCKCE"]⟩,
  ⟨["cher", "cherokee"],
    ["bdODBBGCWCLCgfUdICGcfjEdC"]⟩,
  ⟨["chrs", "chorasmian"],
    ["dyxCbC"]⟩,
  ⟨["copt", "coptic", "qaac"],
    ["hBBwMBDCBBeECeEOpjKeMFHkTBdcpCbC"]⟩,
  ⟨["cpmn", "cyprominoan"],
    ["dtiMCrqKdV"]⟩,
  ⟨["cprt", "cypriot"],
    ["dtiMDEbTDJcoMGCBBbSBCDBCB"]⟩,
  ⟨["cyrl", "cyrillic"],
    ["baYBcPDBBBBBBCBFBjElSivOLgEBcYBeXBgaPbGcPBbtlKdSbheCCdhpGcKbHB"]⟩,
  ⟨["deva", "devanagari"],
    ["baYBcjRdFCbRhiEbNBCbnABbzfRKgKbGbreMK"]⟩,
  ⟨["diak", "divesakuru"],
    ["eckUHCBCIBCBbEBCCMJK"]⟩,
  ⟨["dogr", "dogra"],
    ["doMMcidCKbqiOcI"]⟩,
  ⟨["dsrt", "deseret"],
    ["dumAdC"]⟩,
  ⟨["dupl", "duployan"],
    ["hBBwTCBBYCqiHBfuqLeDFNDJHKCI"]⟩,
  ⟨["egyp", "egyptianhieroglyphs"],
    ["eldGbqSKfxR"]⟩,
  ⟨["elba", "elbasan"],
    ["hBBwRBdtsCbO"]⟩,
  ⟨["elym", "elymaic"],
    ["dyyYX"]⟩,
  ⟨["ethi", "ethiopic"],
    ["beCBfrDcVBECHBBBECbPBECbHBECHBBBECPBcFBECcPCbGDbAjvAXJHBHBHBHBHBHBHBHbvkCGCGCGJHBHepyFHBEBCB",
     "P"]⟩,
  ⟨["gara", "garay"],
    ["chOBOBDBdvqUbMDbDIC"]⟩,
  ⟨["geor", "georgian"],
    ["hBBbvLBefEbMBBFBCbWejWbRCDbjMBeuNbMBBFBjZB"]⟩,
  ⟨["glag", "glagolitic"],
    ["hBBwPBBBoSBCBjXBeiRBfvIBekRdSsPBbtnFBeotKHBRCHBCBF"]⟩,
  ⟨["gong", "gunjalagondi"],
    ["hBBdhKCeanIGBCBbLBCBGHK"]⟩,
  ⟨["gonm", "masaramgondi"],
    ["doMCeajQHBCBbSDBBCBJIK"]⟩,
  ⟨["goth", "gothic"],
    ["hBBwQCCBbOBdsyObB"]⟩,
  ⟨["gran", "grantha"],
    ["dnTCRCyQOgkABBCbEDDCbnABdnrJEBICCCWBHBCBFBKCCCDCBGBFHCHDFerRCBB"]⟩,
  ⟨["grek", "greek"],
    ["hBBwMCCBBBBBKBbUBCBbQICEBBEBBBBDBBBUBcLOQjnQFbYFEFdGDmGWCGCbMCGCIBBBBBBBbFCcBBPBOCGBTCDBJdQB",
     "hSBcajEBbgnIdBRBdaxRcS"]⟩,
  ⟨["gujr", "gujarati"],
    ["dnTCRCkXDBJBDBWBHBCBFCKBDBDCBPECMHHchnSK"]⟩,
  ⟨["gukh", "gurungkhema"],
    ["doNBfadEcG"]⟩,
  ⟨["guru", "gurmukhi"],
    ["dnTCRCfZDBGECCWBHBCBCBCCBBFECCDDBHEBBHRchsZK"]⟩,
  ⟨["hang", "hangul"],
    ["glKjWljLDEKBNODGBhNBcBdQeJbFcNbFbtaNbDyTqnSMXEbXomZCkWFcGbFDGCGCGCD"]⟩,
  ⟨["hani", "han"],
    ["hBBriUbABdLMiGbAQBDBNBNBNCBGJhFBfSQbGbMJBbWbOcEbXPMbZBdKZKFdSbFBjtOcMbfbKcqYIbfbCoCCeCbhRCkW",
     "FbqpOCMCblrASlrYCfeSclfCbGgdUGiOCinQOlbLPxYdqWuWcfYhhZFgfG"]⟩,
  ⟨["hano", "hanunoo"],
    ["itSX"]⟩,
  ⟨["hatr", "hatran"],
    ["dwiATBCFF"]⟩,
  ⟨["hebr", "hebrew"],
    ["bdVCyYcDIbBEGdovWbABFBBBCBCBK"]⟩,
  ⟨["hira", "hiragana"],
    ["seRDEKBNQGBBECDdICIdMCcztGCkWFKBbTCcouRlBSBbDDymVB"]⟩,
  ⟨["hluw", "anatolianhieroglyphs"],
    ["essEwL"]⟩,
  ⟨["hmng", "pahawhhmong"],
    ["fhmEcSKKBHBVFT"]⟩,
  ⟨["hmnp", "nyiakengpuachuehmong"],
    ["haeAbTDOCKEC"]⟩,
  ⟨["hung", "oldhungarian"],
    ["mgOBCBfgDBPBdgeGbZNbZHG"]⟩,
  ⟨["ital", "olditalic"],
    ["ducEbKJD"]⟩,
  ⟨["java", "javanese"],
    ["cmeYdABLEC"]⟩,
  ⟨["kali", "kayahli"],
    ["cmaAbW"]⟩,
  ⟨["kana", "katakana"],
    ["bdTBbDBqzTDEKBNQGBBECdNEDdSjGQiAbVBdKcywBCkWcLcouAEBHBCBBlBDbYBOE"]⟩,
  ⟨["kawi"],
    ["eerWRBbPDbD"]⟩,
  ⟨["khar", "kharoshthi"],
    ["dwtCEBCFIBDBbDCDEKHJ"]⟩,
  ⟨["khmr", "khmer"],
    ["ixKdQCKGKsSbG"]⟩,
  ⟨["khoj", "khojki"],
    ["edIKchoIKbobMSBbV"]⟩,
  ⟨["kits", "khitansmallscript"],
    ["fjiIBkgXsCbPB"]⟩,
  ⟨["knda", "kannada"],
    ["dnTCRCbeONBDBXBKBFCJBDBEHCGCBECKBDgaEBBCGBXBBBcasXG"]⟩,
  ⟨["krai", "kiratrai"],
    ["fiiIcG"]⟩,
  ⟨["kthi", "kaithi"],
    ["doOKnxXBbufEKbnmScPKB"]⟩,
  ⟨["lana", "taitham"],
    ["jxGcLBbDCLGKGO"]⟩,
  ⟨["laoo", "lao"],
    ["fmVCBBBFBYBBBXCFBBBHBKCE"]⟩,
  ⟨["latn", "latin"],
    ["cNbAGbAbVBMBCBFXBbFBrHDBKBBDBBJBBBGFbBPBCBBPDHCBCbMBFBENkRCbvECcxKBeoIbMGbXFEFNBcScFBHjWlRBc",
     "NBNBQNdFBcFCGBbBBRbPecTbGpRBbtuMIbAdYDcPCCBBBIVOlQBtTbRBJBEbedQHboKbAGbAdcFGBbQBJddnPbFGG"]⟩,
  ⟨["lepc", "lepcha"],
    ["kpScEDPDD"]⟩,
  ⟨["limb", "limbu"],
    ["doNBfxQbFBMEMEBDM"]⟩,
  ⟨["lina", "lineara"],
    ["dtiTbTbvGlZJWKI"]⟩,
  ⟨["linb", "linearb"],
    ["dsyQMBbABTBCBPCObIeTFDEbTDJ"]⟩,
  ⟨["lisu"],
    ["baYBQBrdKCbsfSbWbumAB"]⟩,
  ⟨["lyci", "lycian"],
    ["mgOBdhqRbD"]⟩,
  ⟨["lydi", "lydian"],
    ["hBBrfTBdexQbAFB"]⟩,
  ⟨["mahj", "mahajani"],
    ["hBBdhKMcidCKbnuSbN"]⟩,
  ⟨["maka", "makasar"],
    ["eeqQZ"]⟩,
  ⟨["mand", "mandaic"],
    ["cjOBtRbCCB"]⟩,
  ⟨["mani", "manichaean"],
    ["cjOBduqXbNEM"]⟩,
  ⟨["marc", "marchen"],
    ["edsQbGCWBO"]⟩,
  ⟨["medf", "medefaidrin"],
    ["fisEdN"]⟩,
  ⟨["mend", "mendekikakui"],
    ["hcuYhPCQ"]⟩,
  ⟨["merc", "meroiticcursive"],
    ["dwpKYEUCbU"]⟩,
  ⟨["mero", "meroitichieroglyphs"],
    ["mgRBdkhMbG"]⟩,
  ⟨["mlym", "malayalam"],
    ["dnTCRCbjMNBDBbZBDBGEQCbAfvEBXBcasZD"]⟩,
  ⟨["modi"],
    ["clsAKbpoWcRLK"]⟩,
  ⟨["mong", "mongolian"],
    ["jcIbAGdLHbRcwABfzTCFEdjfWN"]⟩,
  ⟨["mroo", "mro"],
    ["fheUbFBKEC"]⟩,
  ⟨["mtei", "meeteimayek"],
    ["cmsMXhTbUCK"]⟩,
  ⟨["mult", "multani"],
    ["dyKKdwaAHBBBEBPBL"]⟩,
  ⟨["mymr", "myanmar"],
    ["gbOgEcfuCBgVbFdTbGbpaMU"]⟩,
  ⟨["nagm", "nagmundari"],
    ["hbpObQ"]⟩,
  ⟨["nand", "nandinagari"],
    ["dnTBSCbiMKgbHBIBHBcasRGbqySICbUCL"]⟩,
  ⟨["narb", "oldnortharabian"],
    ["dwyAbG"]⟩,
  ⟨["nbat", "nabataean"],
    ["dweIbFIJ"]⟩,
  ⟨["newa"],
    ["dnTChkCBBCJBGBBBBBdpoSdOBF"]⟩,
  ⟨["nkoo", "nko"],
    ["chOBOBDBqAcHCDdowSC"]⟩,
  ⟨["nshu", "nushu"],
    ["fjiFByvMpG"]⟩,
  ⟨["ogam", "ogham"],
    ["inObD"]⟩,
  ⟨["olck", "olchiki"],
    ["ksUbW"]⟩,
  ⟨["onao", "olonal"],
    ["doMCgykWbREB"]⟩,
  ⟨["orkh", "oldturkic"],
    ["mgOBfgFBdfzZcV"]⟩,
  ⟨["orya", "oriya"],
    ["dnTCRCpVDBICCCWBHBCBFCJCCCDHDECBFCSgpEBXB"]⟩,
  ⟨["osge", "osage"],
    ["bdPBCBGBcYBdtlVbKEbK"]⟩,
  ⟨["osma", "osmanya"],
    ["duqYbECK"]⟩,
  ⟨["ougr", "olduyghur"],
    ["cjOBdusVBbsFbA"]⟩,
  ⟨["palm", "palmyrene"],
    ["dwdCbG"]⟩,
  ⟨["pauc", "paucinhau"],
    ["edcAcF"]⟩,
  ⟨["perm", "oldpermic"],
    ["hBBwMBFDKBoDBdsmUbR"]⟩,
  ⟨["phag", "phagspa"],
    ["jcKCBBdcJBfzUBbtnXcE"]⟩,
  ⟨["phli", "inscriptionalpahlavi"],
    ["dxgQTFI"]⟩,
  ⟨["phlp", "psalterpahlavi"],
    ["cjOBduyHSHEMH"]⟩,
  ⟨["phnx", "phoenician"],
    ["dwjGbCDB"]⟩,
  ⟨["plrd", "miao"],
    ["fizOcXEcFHR"]⟩,
  ⟨["prti", "inscriptionalparthian"],
    ["dxfKWCI"]⟩,
  ⟨["rjng", "rejang"],
    ["cmbWbKLB"]⟩,
  ⟨["rohg", "hanifirohingya"],
    ["chOBOBDBbGBfRBdvhJbOIK"]⟩,
  ⟨["runr", "runic"],
    ["ioUdL"]⟩,
  ⟨["samr", "samaritan"],
    ["daUbUCPojQB"]⟩,
  ⟨["sarb", "oldsoutharabian"],
    ["dwwUbG"]⟩,
  ⟨["saur", "saurashtra"],
    ["clvCcSIM"]⟩,
  ⟨["sgnw", "signwriting"],
    ["gwtKzCPFBP"]⟩,
  ⟨["shaw", "shavian"],
    ["hBBduiAbW"]⟩,
  ⟨["shrd", "sharada"],
    ["dnTBhkFBBBCCCBJBCBcatEGCBbnwPdS"]⟩,
  ⟨["sidd", "siddham"],
    ["ebcIcCCbM"]⟩,
  ⟨["sind", "khudawadi"],
    ["doMCcidMKboiGcHFK"]⟩,
  ⟨["sinh", "sinhala"],
    ["doMCboLDBSDYBJBBCHDBEGBBBIGKCDfrPBdotQU"]⟩,
  ⟨["sogd", "sogdian"],
    ["cjOBdwiPbQ"]⟩,
  ⟨["sogo", "oldsogdian"],
    ["dyqIbO"]⟩,
  ⟨["sora", "sorasompeng"],
    ["dziEZHK"]⟩,
  ⟨["soyo", "soyombo"],
    ["ecxSdF"]⟩,
  ⟨["sund", "sundanese"],
    ["kkUcMjWI"]⟩,
  ⟨["sunu", "sunuwar"],
    ["bdOCBBJBCBbCBDBecgKbIOK"]⟩,
  ⟨["sylo", "sylotinagri"],
    ["doMCeYKchwIbT"]⟩,
  ⟨["syrc", "syriac"],
    ["bdRCCCBBYDHCBCbcCBOCCBbGBKLbABfNOBcICDkMLieFBBB"]⟩,
  ⟨["tagb", "tagbanwa"],
    ["iuNCbPNBDBC"]⟩,
  ⟨["takr", "takri"],
    ["doMCcidMKbptUcGGK"]⟩,
  ⟨["tale", "taile"],
    ["bdOCFCDBezZKdkWbECF"]⟩,
  ⟨["talu", "newtailue"],
    ["jrCbSEbAGLDC"]⟩,
  ⟨["taml", "tamil"],
    ["dnTCRCuUCBGDDBEDCBBBCDCDDDMEFDDBECBGBOVgkDBcbbKBboeFBBBcDCetFbYNB"]⟩,
  ⟨["tang", "tangut"],
    ["seAQtBBeqkMBbFjcAIbdOtSJ"]⟩,
  ⟨["tavt", "taiviet"],
    ["cmoUcPYF"]⟩,
  ⟨["telu", "telugu"],
    ["dnTCRCzQNBDBXBQCJBDBEHCBDCBCECKHJgeVCBBBBXB"]⟩,
  ⟨["tfng", "tifinagh"],
    ["bdQBBBBEZBpyAcEHCOB"]⟩,
  ⟨["tglg", "tagalog"],
    ["isMWJBVC"]⟩,
  ⟨["thaa", "thaana"],
    ["chOBOCCBcMKkSbYdpgQBKB"]⟩,
  ⟨["thai"],
    ["baYBbABbRBbTBecLcGFbC"]⟩,
  ⟨["tibt", "tibetan"],
    ["frScUBbKEbNBbKBPBHECmeVE"]⟩,
  ⟨["tirh", "tirhuta"],
    ["dnTCRChjJBMBPBcasZKbpaCcUIK"]⟩,
  ⟨["tnsa", "tangsa"],
    ["fhgQdBBK"]⟩,
  ⟨["todr", "todhri"],
    ["bdPBCBCBJBBBcWBdtwBcA"]⟩,
  ⟨["toto"],
    ["baYBgzsLbF"]⟩,
  ⟨["tutg", "tulutigalari"],
    ["exAKgbQBBBcasXGhFBbojEKBBCBBbMBKBBCBBEBKBCIC"]⟩,
  ⟨["ugar", "ugaritic"],
    ["duhCbEBB"]⟩,
  ⟨["vaii", "vai"],
    ["ckmQlO"]⟩,
  ⟨["vith", "vithkuqi"],
    ["dvaELBPBHBCBLBPBHBC"]⟩,
  ⟨["wara", "warangciti"],
    ["echCdFMB"]⟩,
  ⟨["wcho", "wancho"],
    ["havGcGFB"]⟩,
  ⟨["xpeo", "oldpersian"],
    ["duiIbKEO"]⟩,
  ⟨["xsux", "cuneiform"],
    ["efbSbjMdYeHBFLhO"]⟩,
  ⟨["yezi", "yezidi"],
    ["chOBOBDBcMKdwaGbQBDCC"]⟩,
  ⟨["yiii", "yi"],
    ["seRCFKCIiPBbqbCbsVDcDbiiCF"]⟩,
  ⟨["zanb", "zanabazarsquare"],
    ["ecuQcU"]⟩,
  ⟨["zinh", "inherited", "qaai"],
    ["beDBCBBPDHCBCQBCBSBFBEcgMCgoXbFbdBcCBBBFuEChMbGdfsQQQOblNBczqObUCXuYDRICHbEEbtlhIjG"]⟩,
  ⟨["zyyy", "common"],
    ["AcNbAGbAbVBMBCBFXBbFBrHDBKBBDBBJBBBGFFCUeWBGBBByNBiHBtWBcaUBpPEgdBMCbHBbFBKBCBHBLDLBPRbHcLbM",
     "BDCGBbBBRbPDEzQWLVbjSjWyECbGBeBtSXBYCKBEBBBbAqCBDBNBNBVBuJYbFBbXPMEgFKFdSbFBjtOcMbhsQbAdYDbl",
     "OBOCbfhSKWVCMBTBEfRBBbGbAGbAGeXHBHKFpMNbZbTcynBjQGqUgAeMcIjMKbNCcKDRICHbEEcJiFUMUMdJbBHfFdHB",
     "cTBCCBCCCEBMBBBHBcNBECIBHBbCBEBFBBDHBnCClGCbYhtHcQcYcJbbEbSEdWMPCPBPBbLKgScEbABCNbSEJXGfYblW",
     "ERDNDePEdRGMEBPMEcEIKGbOIbECMECcKnCMOCNDKFcEHPCLGJHfRBdYbsuxBBbEdS"]⟩]

end ApiContract.Unicode
