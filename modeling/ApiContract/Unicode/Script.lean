import ApiContract.Unicode.CodePointSet

/-!
Scripts: the writing system that a character belongs to.
-/

namespace ApiContract.Unicode

/-- The scripts, each with its names. -/
def scripts : List NamedSet := [
  ⟨["adlm", "adlam"],
    ["hdeUcYEKEC"]⟩,
  ⟨["aghb", "caucasianalbanian"],
    ["duxScALB"]⟩,
  ⟨["ahom"],
    ["ebrCbBCPEX"]⟩,
  ⟨["arab", "arabic"],
    ["chCFBGBOBDBbGBKLbABeEBbIdCbWjGbFBCFcXBbDdntWeLQnZCdCCcCHBbGQeIFBfFfvNbFcPDcDEdglSEBbBBCBBCBB",
     "KBEBBBBGBEBBBBBBDBCBBCBBBBBBBBBBCBBCEBHBEBEBBBKBRFDBFBRcAC"]⟩,
  ⟨["armi", "imperialaramaic"],
    ["dwbWWBJ"]⟩,
  ⟨["armn", "armenian"],
    ["bzDbMCbYCDdozJF"]⟩,
  ⟨["avst", "avestan"],
    ["dxcYcCDH"]⟩,
  ⟨["bali", "balinese"],
    ["kfWcZBbY"]⟩,
  ⟨["bamu", "bamum"],
    ["clcQdKcvcQvX"]⟩,
  ⟨["bass", "bassavah"],
    ["fhkIbECG"]⟩,
  ⟨["batk", "batak"],
    ["knGcAIE"]⟩,
  ⟨["beng", "bengali"],
    ["dpOEBICCCWBHBBDECJCCCEIBECBFCZ"]⟩,
  ⟨["bhks", "bhaiksuki"],
    ["edoIJBbTBOKbD"]⟩,
  ⟨["bopo", "bopomofo"],
    ["bcSCrlXbReIbG"]⟩,
  ⟨["brah", "brahmi"],
    ["dzaEdAEbKJB"]⟩,
  ⟨["brai", "braille"],
    ["pdWjW"]⟩,
  ⟨["bugi", "buginese"],
    ["jwAbCCC"]⟩,
  ⟨["buhd", "buhid"],
    ["iuYU"]⟩,
  ⟨["cakm", "chakma"],
    ["dzkAcBBS"]⟩,
  ⟨["cans", "canadianaboriginal"],
    ["hoYyQvOcSdtpQQ"]⟩,
  ⟨["cari", "carian"],
    ["dtyMbX"]⟩,
  ⟨["cham"],
    ["cmjWcDJOCKCE"]⟩,
  ⟨["cher", "cherokee"],
    ["hlGdICGcfjEdC"]⟩,
  ⟨["chrs", "chorasmian"],
    ["dyxCbC"]⟩,
  ⟨["copt", "coptic", "qaac"],
    ["bmGOpjKeMFH"]⟩,
  ⟨["cpmn", "cyprominoan"],
    ["ekyYdV"]⟩,
  ⟨["cprt", "cypriot"],
    ["dvzKGCBBbSBCDBCB"]⟩,
  ⟨["cyrl", "cyrillic"],
    ["bnKfDCgNivOLgEBcYBgfNbGbtoAdSbheCCdhpGcKbHB"]⟩,
  ⟨["deva", "devanagari"],
    ["dkQdDEPCbAcijGbGbreMK"]⟩,
  ⟨["diak", "divesakuru"],
    ["eckUHCBCIBCBbEBCCMJK"]⟩,
  ⟨["dogr", "dogra"],
    ["ecaYcI"]⟩,
  ⟨["dsrt", "deseret"],
    ["dumAdC"]⟩,
  ⟨["dupl", "duployan"],
    ["gmdSeDFNDJHKCE"]⟩,
  ⟨["egyp", "egyptianhieroglyphs"],
    ["eldGbqSKfxR"]⟩,
  ⟨["elba", "elbasan"],
    ["duvWbO"]⟩,
  ⟨["elym", "elymaic"],
    ["dyyYX"]⟩,
  ⟨["ethi", "ethiopic"],
    ["gvGcVBECHBBBECbPBECbHBECHBBBECPBcFBECcPCbGDbAjvAXJHBHBHBHBHBHBHBHbvkCGCGCGJHBHepyFHBEBCBP"]⟩,
  ⟨["gara", "garay"],
    ["dxzCbMDbDIC"]⟩,
  ⟨["geor", "georgian"],
    ["ghSbMBBFBCbRBEejWbRCDgeAbMBBFB"]⟩,
  ⟨["glag", "glagolitic"],
    ["qrGdSgizGHBRCHBCBF"]⟩,
  ⟨["gong", "gunjalagondi"],
    ["eebWGBCBbLBCBGHK"]⟩,
  ⟨["gonm", "masaramgondi"],
    ["edyEHBCBbSDBBCBJIK"]⟩,
  ⟨["goth", "gothic"],
    ["dueAbB"]⟩,
  ⟨["gran", "grantha"],
    ["eadSEBICCCWBHBCBFCJCCCDCBGBFHCHDF"]⟩,
  ⟨["grek", "greek"],
    ["bhWEBDCEBBEBBBBDBBBUBcLOQjnQFbYFEFdGBmIWCGCbMCGCIBBBBBBBbFCcBBPBOCGBTCDBJlJBcajEBbgnIdBRBdax",
     "RcS"]⟩,
  ⟨["gujr", "gujarati"],
    ["dzLDBJBDBWBHBCBFCKBDBDCBPECMHH"]⟩,
  ⟨["gukh", "gurungkhema"],
    ["fdrScG"]⟩,
  ⟨["guru", "gurmukhi"],
    ["duNDBGECCWBHBCBCBCCBBFECCDDBHEBBHR"]⟩,
  ⟨["hang", "hangul"],
    ["glKjWllECjXdQeJbFcNbFbtaNbDyTqnSMXEbXpaIbFDGCGCGCD"]⟩,
  ⟨["hani", "han"],
    ["rpWbABdLMiGbVBBBZJOEblCjtOcMbfbKbhsIoCCeCbsiICMCccoKclfCbGgdUGiOCinQOlbLPxYdqWuWcfYhhZFgfG"]⟩,
  ⟨["hano", "hanunoo"],
    ["itSV"]⟩,
  ⟨["hatr", "hatran"],
    ["dwiATBCFF"]⟩,
  ⟨["hebr", "hebrew"],
    ["ccVcDIbBEGdovWbABFBBBCBCBK"]⟩,
  ⟨["hira", "hiragana"],
    ["shDdIGDfpeVlBSBbDDymVB"]⟩,
  ⟨["hluw", "anatolianhieroglyphs"],
    ["essEwL"]⟩,
  ⟨["hmng", "pahawhhmong"],
    ["fhmEcSKKBHBVFT"]⟩,
  ⟨["hmnp", "nyiakengpuachuehmong"],
    ["haeAbTDOCKEC"]⟩,
  ⟨["hung", "oldhungarian"],
    ["dxrSbZNbZHG"]⟩,
  ⟨["ital", "olditalic"],
    ["ducEbKJD"]⟩,
  ⟨["java", "javanese"],
    ["cmeYdACKEC"]⟩,
  ⟨["kali", "kayahli"],
    ["cmaAbUBB"]⟩,
  ⟨["kana", "katakana"],
    ["skVdMCDjGQiAbVBdKczhEKBbTcouCEBHBCBBlBDbYBOE"]⟩,
  ⟨["kawi"],
    ["eerWRBbPDbD"]⟩,
  ⟨["khar", "kharoshthi"],
    ["dwtCEBCFIBDBbDCDEKHJ"]⟩,
  ⟨["khmr", "khmer"],
    ["ixKdQCKGKsSbG"]⟩,
  ⟨["khoj", "khojki"],
    ["dztWSBbV"]⟩,
  ⟨["kits", "khitansmallscript"],
    ["fjiIBkgXsCbPB"]⟩,
  ⟨["knda", "kannada"],
    ["etCNBDBXBKBFCJBDBEHCGCBECKBD"]⟩,
  ⟨["krai", "kiratrai"],
    ["fiiIcG"]⟩,
  ⟨["kthi", "kaithi"],
    ["dzfCcPKB"]⟩,
  ⟨["lana", "taitham"],
    ["jxGcLBbDCLGKGO"]⟩,
  ⟨["laoo", "lao"],
    ["fmVCBBBFBYBBBXCFBBBHBKCE"]⟩,
  ⟨["latn", "latin"],
    ["cNbAGbAbVBPBFXBbFBrHbNFjxBbMGbXFEFNBcScNjWoFBNBQNfLCGBbBBRbPecTbGbulMdYDcPCCBBBIVObfKbRBJBEb",
     "edQHboKbAGbAdcFGBbQBJddnPbFGG"]⟩,
  ⟨["lepc", "lepcha"],
    ["kpScEDPDD"]⟩,
  ⟨["limb", "limbu"],
    ["jmEbFBMEMEBDM"]⟩,
  ⟨["lina", "lineara"],
    ["dvfSlZJWKI"]⟩,
  ⟨["linb", "linearb"],
    ["dsyQMBbABTBCBPCObIeT"]⟩,
  ⟨["lisu"],
    ["ckkUbWbumAB"]⟩,
  ⟨["lyci", "lycian"],
    ["dtxGbD"]⟩,
  ⟨["lydi", "lydian"],
    ["dwkMbAFB"]⟩,
  ⟨["mahj", "mahajani"],
    ["dznCbN"]⟩,
  ⟨["maka", "makasar"],
    ["eeqQZ"]⟩,
  ⟨["mand", "mandaic"],
    ["ddGbCCB"]⟩,
  ⟨["mani", "manichaean"],
    ["dxaMbNEM"]⟩,
  ⟨["marc", "marchen"],
    ["edsQbGCWBO"]⟩,
  ⟨["medf", "medefaidrin"],
    ["fisEdN"]⟩,
  ⟨["mend", "mendekikakui"],
    ["hcuYhPCQ"]⟩,
  ⟨["merc", "meroiticcursive"],
    ["dwpKYEUCbU"]⟩,
  ⟨["mero", "meroitichieroglyphs"],
    ["dwoEbG"]⟩,
  ⟨["mlym", "malayalam"],
    ["eyANBDBbZBDBGEQCbA"]⟩,
  ⟨["modi"],
    ["ebhGcRLK"]⟩,
  ⟨["mong", "mongolian"],
    ["jcICCBBUGdLHbRdscBN"]⟩,
  ⟨["mroo", "mro"],
    ["fheUbFBKEC"]⟩,
  ⟨["mtei", "meeteimayek"],
    ["cmsMXhTbUCK"]⟩,
  ⟨["mult", "multani"],
    ["dzyUHBBBEBPBL"]⟩,
  ⟨["mymr", "myanmar"],
    ["gbOgEcgaYbFdTbGbpaMU"]⟩,
  ⟨["nagm", "nagmundari"],
    ["hbpObQ"]⟩,
  ⟨["nand", "nandinagari"],
    ["ecqYICbUCL"]⟩,
  ⟨["narb", "oldnortharabian"],
    ["dwyAbG"]⟩,
  ⟨["nbat", "nabataean"],
    ["dweIbFIJ"]⟩,
  ⟨["newa"],
    ["eanOdOBF"]⟩,
  ⟨["nkoo", "nko"],
    ["cyIcHCD"]⟩,
  ⟨["nshu", "nushu"],
    ["fjiFByvMpG"]⟩,
  ⟨["ogam", "ogham"],
    ["inObD"]⟩,
  ⟨["olck", "olchiki"],
    ["ksUbW"]⟩,
  ⟨["onao", "olonal"],
    ["hbzKbREB"]⟩,
  ⟨["orkh", "oldturkic"],
    ["dxmUcV"]⟩,
  ⟨["orya", "oriya"],
    ["eeJDBICCCWBHBCBFCJCCCDHDECBFCS"]⟩,
  ⟨["osge", "osage"],
    ["dusUbKEbK"]⟩,
  ⟨["osma", "osmanya"],
    ["duqYbECK"]⟩,
  ⟨["ougr", "olduyghur"],
    ["dyuQbA"]⟩,
  ⟨["palm", "palmyrene"],
    ["dwdCbG"]⟩,
  ⟨["pauc", "paucinhau"],
    ["edcAcF"]⟩,
  ⟨["perm", "oldpermic"],
    ["dufGbR"]⟩,
  ⟨["phag", "phagspa"],
    ["clsQcE"]⟩,
  ⟨["phli", "inscriptionalpahlavi"],
    ["dxgQTFI"]⟩,
  ⟨["phlp", "psalterpahlavi"],
    ["dxhWSHEMH"]⟩,
  ⟨["phnx", "phoenician"],
    ["dwjGbCDB"]⟩,
  ⟨["plrd", "miao"],
    ["fizOcXEcFHR"]⟩,
  ⟨["prti", "inscriptionalparthian"],
    ["dxfKWCI"]⟩,
  ⟨["rjng", "rejang"],
    ["cmbWbKLB"]⟩,
  ⟨["rohg", "hanifirohingya"],
    ["dxwQbOIK"]⟩,
  ⟨["runr", "runic"],
    ["ioUcXDL"]⟩,
  ⟨["samr", "samaritan"],
    ["daUbUCP"]⟩,
  ⟨["sarb", "oldsoutharabian"],
    ["dwwUbG"]⟩,
  ⟨["saur", "saurashtra"],
    ["clvCcSIM"]⟩,
  ⟨["sgnw", "signwriting"],
    ["gwtKzCPFBP"]⟩,
  ⟨["shaw", "shavian"],
    ["dupCbW"]⟩,
  ⟨["shrd", "sharada"],
    ["dzoYdS"]⟩,
  ⟨["sidd", "siddham"],
    ["ebcIcCCbM"]⟩,
  ⟨["sind", "khudawadi"],
    ["eaaQcHFK"]⟩,
  ⟨["sinh", "sinhala"],
    ["fcZDBSDYBJBBCHDBEGBBBIGKCDdulGU"]⟩,
  ⟨["sogd", "sogdian"],
    ["dysEbQ"]⟩,
  ⟨["sogo", "oldsogdian"],
    ["dyqIbO"]⟩,
  ⟨["sora", "sorasompeng"],
    ["dziEZHK"]⟩,
  ⟨["soyo", "soyombo"],
    ["ecxSdF"]⟩,
  ⟨["sund", "sundanese"],
    ["kkUcMjWI"]⟩,
  ⟨["sunu", "sunuwar"],
    ["edlWbIOK"]⟩,
  ⟨["sylo", "sylotinagri"],
    ["clqEbT"]⟩,
  ⟨["syrc", "syriac"],
    ["cqYOBcICDkML"]⟩,
  ⟨["tagb", "tagbanwa"],
    ["iwENBDBC"]⟩,
  ⟨["takr", "takri"],
    ["ebmEcGGK"]⟩,
  ⟨["tale", "taile"],
    ["jpGbECF"]⟩,
  ⟨["talu", "newtailue"],
    ["jrCbSEbAGLDC"]⟩,
  ⟨["taml", "tamil"],
    ["ejICBGDDBEDCBBBCDCDDDMEFDDBECBGBOVealHbYNB"]⟩,
  ⟨["tang", "tangut"],
    ["fjiEBbFjcAIbdOtSJ"]⟩,
  ⟨["tavt", "taiviet"],
    ["cmoUcPYF"]⟩,
  ⟨["telu", "telugu"],
    ["eoENBDBXBQCJBDBEHCBDCBCECKHJ"]⟩,
  ⟨["tfng", "tifinagh"],
    ["rcYcEHCOB"]⟩,
  ⟨["tglg", "tagalog"],
    ["isMWJB"]⟩,
  ⟨["thaa", "thaana"],
    ["cvWbY"]⟩,
  ⟨["thai"],
    ["fhXcGFbC"]⟩,
  ⟨["tibt", "tibetan"],
    ["frScUBbKEbNBbKBPBHEC"]⟩,
  ⟨["tirh", "tirhuta"],
    ["easMcUIK"]⟩,
  ⟨["tnsa", "tangsa"],
    ["fhgQdBBK"]⟩,
  ⟨["todr", "todhri"],
    ["dvdGcA"]⟩,
  ⟨["toto"],
    ["hatKbF"]⟩,
  ⟨["tutg", "tulutigalari"],
    ["eaiQKBBCBBbMBKBBCBBEBKBCIC"]⟩,
  ⟨["ugar", "ugaritic"],
    ["duhCbEBB"]⟩,
  ⟨["vaii", "vai"],
    ["ckmQlO"]⟩,
  ⟨["vith", "vithkuqi"],
    ["dvaELBPBHBCBLBPBHBC"]⟩,
  ⟨["wara", "warangciti"],
    ["echCdFMB"]⟩,
  ⟨["wcho", "wancho"],
    ["havGcGFB"]⟩,
  ⟨["xpeo", "oldpersian"],
    ["duiIbKEO"]⟩,
  ⟨["xsux", "cuneiform"],
    ["efbSbjMdYeHBFLhO"]⟩,
  ⟨["yezi", "yezidi"],
    ["dylKbQBDCC"]⟩,
  ⟨["yiii", "yi"],
    ["cipKbsVDcD"]⟩,
  ⟨["zanb", "zanabazarsquare"],
    ["ecuQcU"]⟩,
  ⟨["zinh", "inherited", "qaai"],
    ["bdOeIkRCrKLbABbcIEgoXbFtTDBNBHEBGBDChQcMuEChMbHftXEeDCczuJQQOblNBiSBgfABctcUbUCXuYDRICHbEEbt",
     "lhIjG"]⟩,
  ⟨["zyyy", "common"],
    ["AcNbAGbAbVBPBFXBbFBrHbNFFCUeMBJBGBBByNBGBOBDBbGBgABtWBeZCbvTBpPElEBcgLDcTChVCBBbvHBNBHEBGBDC",
     "BbdTMCdJBLDLBPRbHcLbMBDCGBbBBRbPDEzQWLVbjSjWyECbGBeBtSdQpMVBBBZPIEEdNCDBdMCfRQbGbMJBbWcMbFdD",
     "bVBdKgMjtOcMbhsIbIdYDgJKjKBgEBpFBOCbezQCiAKWbJBTBEfRBBbGbAGbALKBbTCcMHBHKFjYDEbTDJdCNbZbTiUb",
     "BcshWEfvGjQGqUgAeMcIjMKbNCcKDRICHbEEcJiFUMUMdJJZfFdHBcTBCCBCCCEBMBBBHBcNBECIBHBbCBEBFBBDHBnC",
     "ClGCbYhtHcQcYcJbbEbSEdWMPCPBPBbLKgScEbABCNbSEJHCOGfYblWERDNDePEdRGMEBPMEcEIKGbOIbECMECcKnCMO",
     "CNDKFcEHPCLGJHfRBdYbsuxBBbEdS"]⟩]

end ApiContract.Unicode
