import ApiContract.Unicode.CodePointSet

/-!
Properties that a character has or has not.
-/

namespace ApiContract.Unicode

/-- The properties, each with its names. -/
def binaryProperties : List NamedSet := [
  ⟨["ahex", "asciihexdigit"],
    ["bWKHGbAG"]⟩,
  ⟨["alpha", "alphabetic"],
    ["cNbAGbAbVBKBEBFXBbFBrQEMOFHBBBdIBbDSBCCEBBGBBDBBBUBdFBfJIgKBbMCBGbPbNOBBBCBCBBIbBEEbDLFcEBHO",
     "dYBIEIEDKDCBQbWNdXYbHJCEBFYCTTZHLFYBGIBIbQKMDHGcYBQBDEPNTBICCCWBHBBDEDICCCCBBIBECBFMCKBEDBGE",
     "CCWBHBCBCBCEFECCCEBHEBBRGLDBJBDBWBHBCBFDJBDBCDBPEVEEDBICCCWBHBCBFDICCCCJCECBFNBQCBGDDBEDCBBB",
     "CDCDDDMEFDDBDDBGBbONBDBXBQDIBDBDICBDCBCEbCEBIBDBXBKBFDIBDBDICGCBENDMNBDBbPCIBDBDBBFEHFWGBDBS",
     "DYBJBBCHIGBBBISCNcGFHGBbZCBBBFBYBBBTBDCFBBGBOEbGBcLIBbKETEQBbKcPcDBBCFQcMKECbMBBFBCbRBmVBECH",
     "BBBECbPBECbHBECHBBBECPBcFBECcPbLQQdICGDxWCRBbAFcXDLHULVMUMNBDBCMcACTOBEBcPdLHbRFcSKbFBMEJXbE",
     "CFLbSEbAcCbCEcLCUbYBXCLDbXcABPBIbZbQCEKbSBLOcDWDKbKCLFbRCDbPEBGBCDBFhKTbILkSCGCbMCGCIBBBBBBB",
     "bFCcBBHBBDDBHDECGENFDBHeMBNBQNdXBEBCKBBDFGBBBBBBEBLCEFFEBRbPbfHcAcrUiVGEDCMbMBBFBCcEHBQXJHBH",
     "BHBHBHBHBHBHBbGbVBsBDZJHFCFEdIGDBdMBEFbRBdQRbGbWQtSjtOcMbguFcPbUCkJDQKCUbVFIDeJbNJCdZCcPCCBB",
     "BIVUBbHYcAMcQBBbSGDBBDKbHFbJNbDDbZBMPBQQKFBcDJOSXDcRBBBBYDCQCELGCGCGJHBHBbRBOGeTVqnSMXEbXmnC",
     "oCCeCbMHMFFMBNBFBBBCBCBeEbHnZScMCcCbOMeMFBfFbKbAGbALdLDGCGCGCDbJMBbABTBCBPCObIeTcRcBkHbDDbXb",
     "VbGNbEFbRFbECbKEIBFbQgCSbKEbKEbOIcAMLBPBHBCBLBPBHBCDcAMlZJWKIYGBbQBJcRGCBBbSBCDBCXKXJbFcNTBC",
     "KWKbAcScEGCcMEBCFIBDBbDbQbDDbDbJIBbCbBcCKWKTNSeGcVcDbZNbZNbObIbCDBFXjQbQBCDCQDcDBDbDKBIWbQSb",
     "UVbBXJcSbRFKcFJBNZXbZREIbJDBJcMBEJCKBBBbJSBbICBGEcKHBBBEBPBKHcFXEBICCCWBHBCBFDICCCCDBGBFHbCK",
     "BBCBBbMBKBBCBBEBCDBBBbScOBDBEUDbEcOCCBBhCcCCHZGbIcLBBDBcHcCCBcTbBCOVHhDcFdZcMbFICBCIBCBbEBCC",
     "CCEdPICbUCGBBBCbBbZCKRcUFBScVhRbHbFJBbTBHBBbXbECWBOcVHBCBbSDBBCBDBBCCYGBCBbLBCBEBBmPXJRBbPDD",
     "eHBdBbjMdYeHRhOdxKdTPbpGRGZfxRFwLkdDbVcpDvXHbFRdBRbESbWQEbFVFTqQbTiDcMeYcXEcFHRcMCBBMCOjcAIb",
     "vQbPKnfREBHBCBlFPBbDDCBOEIpGdkUeDFNDJHKEBiwFdHBcTBCCBCCCEBMBBBHBcNBECIBHBbCBEBFBBDHBnCCZBZBb",
     "FBZBbFBZBbFBZBbFBZBIcsYbFGGiFHBRCHBCBFFcKbHBeIbTKHQBmJbESbSsQbCiUbECBtBHBEBCBPBhPcHcQDBDBbuI",
     "EBbBBCBBCBBKBEBBBBGBEBBBBBBDBCBBCBBBBBBBBBBCBBCEBHBEBEBBBKBRFDBFBRyEbAGbAGbAfmKclfCbGgdUGiOC",
     "inQOlbLPxYdqWuWcfYhhZFgfG"]⟩,
  ⟨["bidic", "bidicontrol"],
    ["ciEBjvLCbAFcDE"]⟩,
  ⟨["ci", "caseignorable"],
    ["bNBGBLBbJBBBcTBEBBBEBCCtJhKECEBJCBBjRHhZBFBbXbTBBBCBCBBbSBLGKLBBbJBKVQBdXIBKBEbHBBBbEbBdNLcG",
     "LEBCBYYbRDbSBHCFJbPcGcDBBBEIEBDHKCNBPBcGBEEIBUCbABCCcFBECECCDDBbECDBLCcFBEFBCEBUCWGBBcGBCBBE",
     "IBHCLCbEBcJBMBbYBDBcDBBDFDBEHCLCbDBcGBCBGBFCUCbCCcFCEEIBUCbDBcUBHDBBdMBCHLJdUBCJJBBHcVCbBBBB",
     "BBcDOBFBCFLBbKJBdYEBGBCCCZCEDQENBCCGBPBdQBxKDbkKDbDCbECbECcMCBHIBCLDBFBbTFbZBcNCbIBeODECJBGD",
     "iLCCBcGBBHBBBBCIGKCBbNBIbFbXEbWBBFBBFBbOJMCbGECCBDcEBBCDBBDcGICCcMGdEDBNBHEBGBDCbYcLNBbIdXrD",
     "BBDLDNDNDNCMFICKBCBCFbXFBKBBNBQNbZbHejRCeJDeVBPBdSbGbVBsBBbKEDFFBdPGdPDbqbUBbwCGkKBdUEBKBBbC",
     "EdCCObIdABXDdZDDCIBDBEBZCFBfVCbASNBbMIZLbUDbWBCECCRBVCcOGCCCCMBIBbJBLBbZBBDCCFCBBbBBOCFCBBdW",
     "FJDeRBCBEBbdzSBfRRwBQDBMQbIBCBgNBHBGBLBbJBBBbVBbTCcPBVDtTBiSBfTFbnPGBbQBJwKDBCFEbODEBgJCwBEb",
     "MBbAFBBmDCdBEcSLbXEeTBcCPbPBCCKDbXECCCBEBKBbYDbKFBIcKBMCcAJKECBdRDCBBCGBCBgBBDIVCcFCDBbLHDFc",
     "SGNBBBBBOCdHICDBBXBdGGBBECBCjEEGCBCbBCdHICBBCeCBBBCGBBdXBBBCEBFjZJBCjWCBBEBfOECCEBbGKbOGCEIB",
     "JGCDbUNBCpQHBGBBdEWCHBCBCeSGDBBCBHBBcUCDBBBnJCLCcAFFBBBXBhxDRGPqyYMDDdsAFcHHJEtODbOCsOBcLRcM",
     "CBCygPEBHBCeuGCBEgyUbUCXuYDJQCHbEEfSDcyDcDEbYIBOBWFBPcaIHBRCHBCBFFcKbHBgEOoEBcJEtNFjUCbcIHeF",
     "IebFFbsxxPBbEdSeYjG"]⟩,
  ⟨["cased"],
    ["cNbAGbAbVBKBEBFXBbFBhNBEEiABbKHCbEFdSBbQECCCEBBGBBDBBBUBdFBfJIgKBbMJbPefFbMBBFBCbRBEzWdICGdf",
     "ULFbRCDcMhKcMkSCGCbMCGCIBBBBBBBbFCcBBHBBDDBHDECGENFDBHeMBNBQNdXBEBCKBBDFGBBBBBBEBGEBCEFFEBRb",
     "GDCbfLcAcrUiVGEDCMbMBBFBbtwCbUSbEfCdYDEBcKCCBBBIVFBDbfPbRBOGdCbeaIHMFbnTbAGbAbtTdCdSbKEbKeML",
     "BPBHBCBLBPBHBCrJBCDBbQBJbuZbZNbZdPWKWefIcMbgiQcMbmlKdHBcTBCCBCCCEBMBBBHBcNBECIBHBbCBEBFBBDHB",
     "nCCZBZBbFBZBbFBZBbFBZBbFBZBIcsYKBUGGkBcKdgKcQdaAbAGbAGbA"]⟩,
  ⟨["cwcf", "changeswhencasefolded"],
    ["cNbAdMBKXBIbGBBBBBBBBBBBBBBBBBBBBBBBBBBBBBBBBBBBBBBBBBBBBBBBBBBBBBBBCBBBBBBBBBBBBBBBBCBBBBBB",
     "BBBBBBBBBBBBBBBBBBBBBBBBBBBBBBBBBBBBBBBCBBBBBBBCBBBCBDCEBCBDDCBCBBBBBCBBCBBCBDBBBCDBHCBCBCBB",
     "BBBBBBBBBBBBBBCBBBBBBBBBBBBBBBBBCCBBBDBBBBBBBBBBBBBBBBBBBBBBBBBBBBBBBBBBBBBBBBBBBBBBBBBBBBBB",
     "BBBBHCBCCBBEBBBBBBBBjMBbQBBBDBIBGBBDBBBCBRBJWBMDDCBBBBBBBBBBBBBBBBBBBBBBBBBCCCBBBCCbZbWBBBBB",
     "BBBBBBBBBBBBBBBBBBBBBBBBBBBBJBBBBBBBBBBBBBBBBBBBBBBBBBBBBBBBBBBBBBBBBBBBBBBBBBBBBBBCBBBBBBBB",
     "BBBBCBBBBBBBBBBBBBBBBBBBBBBBBBBBBBBBBBBBBBBBBBBBBBBBBBBBBBBBBBBBBBBBBBBBBBBBBBBBBBBBBBBBBBBB",
     "BBBBBBBBCbMbWBefGbMBBFBbfEGdfUKGbRCDmIBBBBBBBBBBBBBBBBBBBBBBBBBBBBBBBBBBBBBBBBBBBBBBBBBBBBBB",
     "BBBBBBBBBBBBBBBBBBBBBBBBBBBBBBBBBBBBBBBBBBBBBBBBBBBBBBBBBBBBBBBBBBBBBBBBBBBBBBBBBBBBBBBBBBBB",
     "BBBFCCBBBBBBBBBBBBBBBBBBBBBBBBBBBBBBBBBBBBBBBBBBBBBBBBBBBBBBBBBBBBBBBBBBBBBBBBBBBBBBBBBBBBBB",
     "BBBBBBBBBBBJIIGKIIIIGLBBBBBBBIIQbWCDCGFDCGLEMFFDCGlLBDCGBbTQTBbfMbAcsUbWbWBBDCBBBBBBEBBCBIDB",
     "BBBBBBBBBBBBBBBBBBBBBBBBBBBBBBBBBBBBBBBBBBBBBBBBBBBBBBBBBBBBBBBBBBBBBBBBBBBBBBBBBBBBBBBBBBBB",
     "BBBBBIBBBEBbtyJBBBBBBBBBBBBBBBBBBBBBBBBBBBBBBBBBBBBBBBBBBBBBTBBBBBBBBBBBBBBBBBBBBBBBBBBBfFBB",
     "BBBBBBBBBBBDBBBBBBBBBBBBBBBBBBBBBBBBBBBBBBBBBBBBBBBBBBBBBBBBBBBBBBBBBBBBBKBBBBCBBBBBBBBEBBBC",
     "BBBDBBBBBBBBBBBBBBBBBBBBFBFBBBBBBBBBBBBBBBEBBBCDBFBBBBBBBYBbiGdCbeaIHMFbnTbAbuZbOfGbKgALBPBH",
     "BCcqCbZgBWegObGbgjWbGbulKbI"]⟩,
  ⟨["cwcm", "changeswhencasemapped"],
    ["cNbAGbAcGBKXBbFBcMBdGBbCCOCCBBEdPBSGbBBCBBBCDCBEBFCBBCCBHBCBBCDGFBKCgKBbQECCDDBBGBBDBBBUBbVD",
     "bHBFBfDIgKBbMKbNefGbMBBFBCbRCDzWdICGdfULFbRCDhDBDBQBeJgACBBeOCGCbMCGCIBBBBBBBbFCcBBHBBDDBHDE",
     "CGENFDBHlLBDCGBbBBRbGDCbfLcAcrUeJBCBCHdYHEDCMbMBBFBbtwCbUSbCfEOCcKJPDDCFBZBbECCEHYCbhCBbCdCb",
     "eaIHMFbnTbAGbAbtTdCdSbKEbKeMLBPBHBCBLBPBHBCcoPbZNbZdPWKWefIcMbgiQcMbukEcQ"]⟩,
  ⟨["cwl", "changeswhenlowercased"],
    ["cNbAdXXBHbHBBBBBBBBBBBBBBBBBBBBBBBBBBBBBBBBBBBBBBBBBBBBBBBBBBBBBBBCBBBBBBBBBBBBBBBCBBBBBBBBB",
     "BBBBBBBBBBBBBBBBBBBBBBBBBBBBBBBBBBBBBCBBBBDCBBBCBDCEBCBDDCBCBBBBBCBBCBBCBDBBBCDBHCBCBCBBBBBB",
     "BBBBBBBBBBCBBBBBBBBBBBBBBBBBCCBBBDBBBBBBBBBBBBBBBBBBBBBBBBBBBBBBBBBBBBBBBBBBBBBBBBBBBBBBBBBB",
     "HCBCCBBEBBBBBBBBlDBBBDBIBGBBDBBBCBRBJbJBIBBBBBBBBBBBBBBBBBBBBBBBFBCBBCCbZbWBBBBBBBBBBBBBBBBB",
     "BBBBBBBBBBBBBBBBJBBBBBBBBBBBBBBBBBBBBBBBBBBBBBBBBBBBBBBBBBBBBBBBBBBBBBBCBBBBBBBBBBBBCBBBBBBB",
     "BBBBBBBBBBBBBBBBBBBBBBBBBBBBBBBBBBBBBBBBBBBBBBBBBBBBBBBBBBBBBBBBBBBBBBBBBBBBBBBBBBBBBBBBCbMe",
     "hDbMBBFBbbUdIdgLBGbRCDmIBBBBBBBBBBBBBBBBBBBBBBBBBBBBBBBBBBBBBBBBBBBBBBBBBBBBBBBBBBBBBBBBBBBB",
     "BBBBBBBBBBBBBBBBBBBBBBBBBBBBBBBBBBBBBBBBBBBBBBBBBBBBBBBBBBBBBBBBBBBBBBBBBBBBBBBBBJBBBBBBBBBB",
     "BBBBBBBBBBBBBBBBBBBBBBBBBBBBBBBBBBBBBBBBBBBBBBBBBBBBBBBBBBBBBBBBBBBBBBBBBBBBBBBBBBBBBBBJIIGK",
     "IIIIGLBBBBBBBIIYIIIIIIFLFLEMFLFlLBDCGBbTQTBbfMbAcsUbWbWBBDCBBBBBBEBBCBIDBBBBBBBBBBBBBBBBBBBB",
     "BBBBBBBBBBBBBBBBBBBBBBBBBBBBBBBBBBBBBBBBBBBBBBBBBBBBBBBBBBBBBBBBBBBBBBBBBBBBBBIBBBEBbtyJBBBB",
     "BBBBBBBBBBBBBBBBBBBBBBBBBBBBBBBBBBBBBBBBBTBBBBBBBBBBBBBBBBBBBBBBBBBBBfFBBBBBBBBBBBBBDBBBBBBB",
     "BBBBBBBBBBBBBBBBBBBBBBBBBBBBBBBBBBBBBBBBBBBBBBBBBBBBBBKBBBBCBBBBBBBBEBBBCBBBDBBBBBBBBBBBBBBB",
     "BBBBBFBFBBBBBBBBBBBBBBBEBBBCDBFBBBBBBBYBbhaHbAbuZbOfGbKgALBPBHBCcqCbZgBWegObGbgjWbGbulKbI"]⟩,
  ⟨["cwt", "changeswhentitlecased"],
    ["dTbAcGBbPYBIBBBBBBBBBBBBBBBBBBBBBBBBBBBBBBBBBBBBBBBBBBBBBBBBBBBBBBBBCBBBBBBBBBBBBBBCBBBBBBBB",
     "BBBBBBBBBBBBBBBBBBBBBBBBBBBBBBBBBBBBBBCBBBBDCBBBCBDBFBCBDDCBCBBBBBCBEBCBDBBBCBDBBBEBBCBCBBBB",
     "BBBBBBBBBBBBBCBBBBBBBBBBBBBBBBBDBBBBDBBBBBBBBBBBBBBBBBBBBBBBBBBBBBBBBBBBBBBBDBBBBBBBBBBBBBBB",
     "BBIBCCBBEBBBBBBBBGBCBBBCDCBEBFCBBCCBHBCBBCDGFBKCgKBbRBBBDBDDSBbBbJBCDDBBBBBBBBBBBBBBBBBBBBBB",
     "BFBBCBCBcAbWBBBBBBBBBBBBBBBBBBBBBBBBBBBBBBBBBBJBBBBBBBBBBBBBBBBBBBBBBBBBBBBBBBBBBBBBBBBBBBBB",
     "BBBBBBBBCBBBBBBBBBBBBCBBBBBBBBBBBBBBBBBBBBBBBBBBBBBBBBBBBBBBBBBBBBBBBBBBBBBBBBBBBBBBBBBBBBBB",
     "BBBBBBBBBBBBBBBBBBBBBBBBBBbXbNfmEGdfUJBBjEBDBQBeKBBBBBBBBBBBBBBBBBBBBBBBBBBBBBBBBBBBBBBBBBBB",
     "BBBBBBBBBBBBBBBBBBBBBBBBBBBBBBBBBBBBBBBBBBBBBBBBBBBBBBBBBBBBBBBBBBBBBBBBBBBBBBBBBBBBBBBBBBBB",
     "BBBBBBBBBBBBBHFBBBBBBBBBBBBBBBBBBBBBBBBBBBBBBBBBBBBBBBBBBBBBBBBBBBBBBBBBBBBBBBBBBBBBBBBBBBBB",
     "BBBBBBBBBBBBBBBBBJIGKIIIIGKIIIIOCIIIIIIFBCGBDDBCIECCIIKDBCnEBbHQEBbgLbActQbWBBDCBBBBBBGBCBKB",
     "BBBBBBBBBBBBBBBBBBBBBBBBBBBBBBBBBBBBBBBBBBBBBBBBBBBBBBBBBBBBBBBBBBBBBBBBBBBBBBBBBBBBBBBBBBBB",
     "BBBBBBIBBBEBMbMBBFBbtwDBBBBBBBBBBBBBBBBBBBBBBBBBBBBBBBBBBBBBBBBBBBBBTBBBBBBBBBBBBBBBBBBBBBBB",
     "BBBBfFBBBBBBBBBBBBBDBBBBBBBBBBBBBBBBBBBBBBBBBBBBBBBBBBBBBBBBBBBBBBBBBBBBBBBBBBBBBKBBBCBBBBBB",
     "BBBEBEBBCCBBBBBBBBBBBBBBBBBBBLBBBBBBBBBBBBBBBEBBBCBDBFBBBBBbABbhCBbCdCbeaIHMFboZbAbvHbOfGbKf",
     "ZLBPBHBCcrBbZeVWegObGbgjWbGbulMbI"]⟩,
  ⟨["cwu", "changeswhenuppercased"],
    ["dTbAcGBbPYBIBBBBBBBBBBBBBBBBBBBBBBBBBBBBBBBBBBBBBBBBBBBBBBBBBBBBBBBBCBBBBBBBBBBBBBBCBBBBBBBB",
     "BBBBBBBBBBBBBBBBBBBBBBBBBBBBBBBBBBBBBBCBBBBDCBBBCBDBFBCBDDCBCBBBBBCBEBCBDBBBCBDBBBFCBCBCBBBB",
     "BBBBBBBBBBBCBBBBBBBBBBBBBBBBBCBCBBDBBBBBBBBBBBBBBBBBBBBBBBBBBBBBBBBBBBBBBBDBBBBBBBBBBBBBBBBB",
     "IBCCBBEBBBBBBBBGBCBBBCDCBEBFCBBCCBHBCBBCDGFBKCgKBbRBBBDBDDSBbBbJBCDDBBBBBBBBBBBBBBBBBBBBBBBF",
     "BBCBCBcAbWBBBBBBBBBBBBBBBBBBBBBBBBBBBBBBBBBBJBBBBBBBBBBBBBBBBBBBBBBBBBBBBBBBBBBBBBBBBBBBBBBB",
     "BBBBBBCBBBBBBBBBBBBCBBBBBBBBBBBBBBBBBBBBBBBBBBBBBBBBBBBBBBBBBBBBBBBBBBBBBBBBBBBBBBBBBBBBBBBB",
     "BBBBBBBBBBBBBBBBBBBBBBBBbXbNehCbRCDbdGGdfUJBBjEBDBQBeKBBBBBBBBBBBBBBBBBBBBBBBBBBBBBBBBBBBBBB",
     "BBBBBBBBBBBBBBBBBBBBBBBBBBBBBBBBBBBBBBBBBBBBBBBBBBBBBBBBBBBBBBBBBBBBBBBBBBBBBBBBBBBBBBBBBBBB",
     "BBBBBBBBBBBBBBBBBBHFBBBBBBBBBBBBBBBBBBBBBBBBBBBBBBBBBBBBBBBBBBBBBBBBBBBBBBBBBBBBBBBBBBBBBBBB",
     "BBBBBBBBBBBBBBBBBBBBBBJIGKIIIIGKIIIIOCcBBCEBBBDDBCEBDECCIIKDBCEBmZBbHQEBbgLbActQbWBBDCBBBBBB",
     "GBCBKBBBBBBBBBBBBBBBBBBBBBBBBBBBBBBBBBBBBBBBBBBBBBBBBBBBBBBBBBBBBBBBBBBBBBBBBBBBBBBBBBBBBBBB",
     "BBBBBBBBBBBBIBBBEBMbMBBFBbtwDBBBBBBBBBBBBBBBBBBBBBBBBBBBBBBBBBBBBBBBBBBBBBTBBBBBBBBBBBBBBBBB",
     "BBBBBBBBBBfFBBBBBBBBBBBBBDBBBBBBBBBBBBBBBBBBBBBBBBBBBBBBBBBBBBBBBBBBBBBBBBBBBBBBBBBBBBBKBBBC",
     "BBBBBBBBBEBEBBCCBBBBBBBBBBBBBBBBBBBLBBBBBBBBBBBBBBBEBBBCBDBFBBBBBbABbhCBbCdCbeaIHMFboZbAbvHb",
     "OfGbKfZLBPBHBCcrBbZeVWegObGbgjWbGbulMbI"]⟩,
  ⟨["dash"],
    ["bTBcaUBbZBfkJBbnPBdbDGcJBbNBPBpABeoIBCBbFCEBbCBrEBTBeHBczwACbLBKBgNBflOBmGB"]⟩,
  ⟨["di", "defaultignorablecodepoint"],
    ["gRBzXBbbOBegWCckHCdHFdaPFbAFbXQgkYBczmPQjFBgEBdBJctlNEhwXIbtkzLgbO"]⟩,
  ⟨["dep", "deprecated"],
    ["mRBbyVBdkTBBBdcJCdiJGbaVCbzryKB"]⟩,
  ⟨["dia", "diacritic"],
    ["dQBBBcTBGBEBCCtJgDBIFGRCEBJCjTFiBBcDbTBBBCBCBBfBIECfECECDDcPbBdNLcGLbICeWIbPKQbCcJBQBDEbCBcW",
     "BQBeGBQBeGBQBbVDcIBQBHBePBeGBQBeGBQBeFCQBeUBeHBMGBBeDBNFcXCbBBBBBBECcODBCcKBeIBBCbOCEFZHBBKC",
     "bbDDbkMCbEBfSLJBnJDlGBUICBbWPCLeABPBbMJcCCcGBLCcOCcMGdEZEBGBCDbYcLbWbKFMbLLrDBBDLDNDNDNCexKD",
     "mFBtMGeBEdRBbsmKBMCBBbCCdECObIdYDeFCMBbLBfVBbBScFEbKBdRBMBbKBfTDcNEbZBdWFJDeYCbdzSBbdPQkKBBB",
     "bVBbTCcPBbdKBbtNGBbQBJyNDEBgJCvZGbMBbAFpJDcSLbXEhKBbPBcUCeQCcKBcYBJDeACgWCdCCQBYHDFdLDBCNCdR",
     "BDBeTCjRCeWBeOCeLBkJCjYCEBgABdFBSBdDBqFBjYBBCdDBqJCXBhyAPqzPBdsAFcHHvSCvARdCCygCEBHBCltHbUCX",
     "uYDDGIICHbEEfmWcKhMHoLBcJEbdMCbcIHeFDBD"]⟩,
  ⟨["emoji"],
    ["bJBGBFKeHBEBlyRBMBiIBWBdMGPCoDCMBgKBZLEDhRBiXCKBJBcGEBFJBCBCCCBEBCBBCCBDBDCIDFBBBFMLCCBBCBBS",
     "BCCSGBBBCDCFBCCECLCFCCBFCBBBCUCFGBECBEBCBCGBBCBBBBBGBDBGBKCPBCBEBBBEDBBLCbWDJBOBOBoICrVDTCbZ",
     "BEBbvUBMBxDBBBgmrQBhUBgECMCOBCKcXbABCXBUBCJVCgSbICeICCBDCdFCDBkDBcLLGBYHCCIMBCECBECNCCBICJBF",
     "DMDIDCBBBEBGBDBGdIbWcSFICDEKDBBCDBCKiTMEBkXbVBKBhDeINDKFcEHPCLGJ"]⟩,
  ⟨["ecomp", "emojicomponent"],
    ["bJBGBFKmbJBiFBdftRBdoiWbAtNFceAEbsvuQdS"]⟩,
  ⟨["emod", "emojimodifier"],
    ["hhiXF"]⟩,
  ⟨["ebase", "emojimodifierbase"],
    ["olHBiLBQEgsjVBcIDCBCDeNCCLVTDBEDBDHBBBYBhTCEBVBECgSDDFdFBQDJBLBwDBCBIIGBJKCDcEBcJCBCBBRDBNiV",
     "DbQJ"]⟩,
  ⟨["epres", "emojipresentation"],
    ["nhQChXEDBCBuBCVCbYMbRBTBNBICRCFCIBFBVBHCBBEBCBHBECbCBbJBBBEDBBcJDYBOBbhBCbZBEBgplEBhUBhIBCKc",
     "XbABBYBUBCFBDVCgSbHMJBcSBWMbREFMRDBDcTBBBhFCcLNEBYSBbACNBdIdHbWcSGBDDCDEELCHJiTMEBkXbVBKBhDe",
     "INDKFcEHPCLGJ"]⟩,
  ⟨["extpict", "extendedpictographic"],
    ["gNBEBlyRBMBiIBWBdMGPCoDCMBdRBcSBZLEDhRBiXCKBJBcGEBGBMBeKKeOCLBBBBGBDBGBKCPBCBEBBBEDBBLFbTDJB",
     "OBOBoICrVDTCbZBEBbvUBMBxDBBBgmrMjWNDbFBcIGMCOBCKScFbBPKBUBCJBEJqSFmGIkGbWeYeMMdHbRMEcEIKGbOI",
     "bEdEMbVBKBqZjWbnI"]⟩,
  ⟨["ext", "extender"],
    ["hBBuQCbhUBqZByGBfHBdLBbcYBeXBdnFBcEBxNBpIBcQBhkJBbRFdZCdPDbqbUBcgSBblABWBfHBeEBVCbfzVBdbKCcf",
     "BBbBBEBbvBBlHBeMCtEDbvJBbeoFCbtKCBBbqyACbuFBbgUD"]⟩,
  ⟨["grbase", "graphemebase"],
    ["bGdRbHNBwWeIICGEHBBBUBiQHgKBbMCbYCDbUBBBCBCBJbBEGRKLBBbUVQBdXIBGCCBEbGCBBbEbDdLLBObRJHDYEBJB",
     "DBHPBZFBBLFbFRbQcFcDBBBEIEBDHKCbDBCBICCCWBHBBDEDBBCGCCCBBNCBDEYFBBGECCWBHBCBCBCEDYEBBHKCDBBM",
     "BBJBDBWBHBCBFDEIBBCDBPCEMHBICBICCCWBHBCBFDBCBGCCCPCBDESLBBGDDBEDCBBBCDCDDDMFBBCDDBDDBVVGDBIB",
     "DBXBQDBDETDCBCCEKHKBLBDBXBKBFDCCBBCYCBCEKBDOLBDBbPCBBCFDBDBCEDBKEbACCBSDYBJBBCHJCGHHKCDMbWBC",
     "LIINbLCBBBFBYBBBKBCJBCFBBJKCEbGYCbBBBBBBOBbKSBFBCFbXIBGBNbLbTEBGBCCCZCEDQENBCCGBPBbOBBFBCoNB",
     "ECHBBBECbPBECbHBECHBBBECPBcFBECcPFbDDbAGdICGCzTDdLHSNTDCJSONBDPcACBHIBCLJDKGKGLFKGdLHFCbIBBF",
     "cSKbFEECDECBGHBDbQCFLbSEbAGLDcFCCDcEBBJBBCIGNKGKGOdIbWKEDIBbDJMCbGECGcEBBCDBBNbWICFPDcKFbRCL",
     "LBNBHEBGBDCBFhKcMkSCGCbMCGCIBBBBBBBbFCcBBPBOCGBTCDBJBLFYHbXQCCbBBNDbHcLfKEzQWLVcrSCbGBnGDCFb",
     "TBBFBCcEHCPXJHBHBHBHBHBHBHBHbHdQbIbABdLMiGbAcGGQBdIEdXFbRBdQBdIJbWBbriRDcDJnKUbVEBKbGCdCCGIh",
     "YCCBBBIVQBDBEBZCFEKGcEIcQKMYNBbMIZLBMbEGbWBCECCCBNBLEHBZBbPGCCCLDBIBBCKCbGBbZBBDCCFCBBBYRCIL",
     "GCGCGJHBHBcIEeNBCBEDKGqnSMXEbXmnCoCCeCbMHMFFBBYBFBBBCBCBeVQrDCcCHBbGQQKWbJBTBEEFBfFEgBCbFDGC",
     "GCGCDDHBHNCCMBbABTBCBPCObIeTFDEbTDdKBNDBbVbTfBbDDbXQbBEbKJbEFbMKbEBbLEObQgCCKGbKEbKEbOIcALMB",
     "PBHBCBLBPBHBCDcAMlZJWKIYGBbQBJcRGCBBbSBCDBCXBcUIJbWTBCFbHDbBFBcMcEEUCbVPEBDBbDKJHJHcMbGbLGMJ",
     "cCDbDCbBFbAHEMHdCcVcDbZNbZHbQMKGbMIYICiAbFBbQDBCCQDcHbOIWLJWSEEbMbCUXJBBcCPHEbEBCCBMbXECCCBE",
     "OZHKJbKFBJSIbJBDLcAJBBIECBQBULSBbCDCEGBCcLHBBBEBPBLGbVBDNKICBICCCWBHBCBFDBBBBECCCCDBMHbCKBBC",
     "BBbMBBBCPBBCDBBDBCbNcEICDBBVBBBDbEbWBCGBBCBBCBCEIKgKbVBCGECBCbBbKbZICBBCELKGNTbRBBBCICGKGUbC",
     "bBDBBCEBJXhDbVJBCBdWdFMICBCIBCBYBFBCGEBDJKcSICbQIEBEbBBKbOGCEIJBGCDbUNBCJNcVHKhAbIOKGJBbMOBB",
     "GKbDDbGZBHBCBcXHBCBbMVBJKGGBCBbLECBBBBHKlYTCEJPBbKICDXdIBPbYNbjNdYeHBFLhOdxKdVNbpGRGZfxRFwLk",
     "dDbEMDDKcoSvXHbFBKEdDBKGbEHBKbWHPKKBHBVFTqQcGhQdNdXcXFcELNcMEbCjcAIbvQbPKnfREBHBCBlFPBbDDCBO",
     "EIpGdkUeDFNDJHKCBCBfvKjQGqUgAeMcIjMKbNCcIFDWCHbEEcJVcODBeSUMUMdJJZfFdHBcTBCCBCCCEBMBBBHBcNBE",
     "CIBHBbCBEBFBBDHBnCClGCvQcDEbYIBOBHbrWbFGGkBcKfQbTKHCKECmIbESbSEKFBrWbCEKiGbECLEBsMHBEBCBPBhP",
     "CJbWcQHBEKECbeFcQcYcJhMEBbBBCBBCBBKBEBBBBGBEBBBBBBDBCBBCBBBBBBBBBBCBBCEBHBEBEBBBKBRFDBFBRcAC",
     "kKbSEdWMPCPBPBbLKgScEbDNbSEJHCOGfYblWERDNDePEdRGMEBPMEcEIKGbOIbECMECcKnCMOCNDKFcEHPCLGJHfRBd",
     "YbnQclfCbGgdUGiOCinQOlbLPxYdqWuWcfYhhZFgfG"]⟩,
  ⟨["grext", "graphemeextend"],
    ["bdOeIkPHkDbTBBBCBCBBcULbWVQBdXHCGCCBEbJBbEbBdNLcGJJBYEBJBDBFbRDcHJbQYBbGcDBBBEIEBDHKCbDBcGBB",
     "BCEIBJBKCbABCCcFBECECCDDBbECDBLCcFBEFBCEBUCWGBBcGBBCBEIBHDKCbEBcHBBBMBJBbOBDBcDBBDFDBEHCLCbD",
     "BcGBCCBBDDBEHCLCbCCcFCBBCEIBJBKCbDBcUBEBCDBBIBdDBCHMIdUBCJLHcVCbBBBBBBcDOBFBCFLBbKJBdYEBGBCC",
     "CZCEDQENBCCGBPBbbBDbkKEbCDbDCbECcMCBHIBCLJBbTDBBeNCbIBeODECJBGDiLCCBcGBBHBBBBCIGKCBbWbFbXEbW",
     "KEDbMJMCbGECGcEBBCDBBFcEICCfWDBNBHEBGBDChQcMuEBhNbHeoCDfLBdSbGvIGeBCbsqEEBKbGCdCCkMBDBEBZCFB",
     "fVCbASNBbMIZLBBbSDbWBCECCCBbKBcPGCCCCMBIBbVBbZBBDCCFCBBbQCIBjEBCBEBbdzSBbcJQQQoCCxHBiSBfTFcm",
     "GDBCFEbODEBgJCwBEcNFmFCdBEcSLbXEeTBcCPbPBCCKDbXECCHBcJDbKFBIcKBMCcAJBBIECBdRDCEGBCBgBBDIVCcF",
     "CBBBBMBJBOHDFcPBCGBBCBBDEDBBOCdHICDBBXBdDBCGBBCBBCBCjBBCEGCBCbBCdHICBBCeCBBBCIdXBBBCEBFjZJBC",
     "jLBKEEBfOECCEBbGKbOGCEIBJGCDbUNBCpQHBGBBdEWCHBCBCeSGDBBCBHBBcUCDBBBnJCLCcAFFDXBhxTBGPqyYMDDd",
     "sAFcHHboIBcLEdDBLCbdaXCgyZbUCXuWFDGIICHbEEfSDcyDcDEbYIBOBWFBPcaIHBRCHBCBFdWBgEHoLBcJEtOEjUCb",
     "cIHeFHbtcaFdSeYjG"]⟩,
  ⟨["grlink", "graphemelink"],
    ["dnPBeXBeXBeXBeXBeXBeXBeXBeFCQBeUBeHBeXBhTBgYCcpLCbEBgBBzDBiTBdXCcSCgqTBbukKBbLBfVBfMBeEBlXBj",
     "MBbjsRBchIBbPBOBcFBeRCfJBeMBgYBdUBeYDeJBeXBjSBeXBeOBeMBkJBjZCgFBdFBSBdDBqFBkACdDBqJCyzCB"]⟩,
  ⟨["hex", "hexdigit"],
    ["bWKHGbAGdslLKHGbAG"]⟩,
  ⟨["hyphen"],
    ["bTBeXBbvWBgzZBdbDCfiBBbcLBczuLBgNBdJB"]⟩,
  ⟨["idsb", "idsbinaryoperator"],
    ["seACCKtDB"]⟩,
  ⟨["idst", "idstrinaryoperator"],
    ["seCC"]⟩,
  ⟨["idsu", "idsunaryoperator"],
    ["seOC"]⟩,
  ⟨["idcompatmathcontinue"],
    ["gWCFBmaGBDLBPoHBEBWBgjjEBZBbFBZBbFBZBbFBZBbFBZB"]⟩,
  ⟨["idcompatmathstart"],
    ["mwWBEBWBgjjEBZBbFBZBbFBZBbFBZBbFBZB"]⟩,
  ⟨["idc", "idcontinue"],
    ["bWKHbAEBBbAbVBKBBBCBFXBbFBrQEMOFHBBBReNBCCEBBGFBBBUBdFBfJBFCgKBbMCBGbPIbTBBBCBCBBIbBEEbDLFcW",
     "EdYBICKBTCBQcHCdXOcCEBCBCbUSbCELFYBGIcXBeZCKBTBICCCWBHBBDECJCCCEIBECBFCMKBBBCDBGECCWBHBCBCBC",
     "CBBFECCDDBHEBBHQLDBJBDBWBHBCBFCKBDBDCBPECKJHBDBICCCWBHBCBFCJCCCDHDECBFCKBBQCBGDDBEDCBBBCDCDD",
     "DMEFDDBECBGBOKQNBDBXBQCJBDBEHCBDCBCECKQEBIBDBXBKBFCJBDBEHCGCBECKBDMNBDBbZBDBFFEHFCKKGBDBSDYB",
     "JBBCHDBEGBBBIGKCCNcGFPBKbNCBBBFBYBBBXCFBBBHBKCEbGBXCGKLBBBBBEKBbKEUBSBbKJBcFcWGdACbMBBFBCbRB",
     "mVBECHBBBECbPBECbHBECHBBBECPBcFBECcPCDJJOQQdICGDxWCRBbAFcXDLHWJWLUMNBDBCMdGDBECCKbHDBLGdLHbR",
     "FcSKbFBMEMKbOCFLbSEbAGLbLbCEcLBbDCLGKNBIOBQbXcZDKRJMeMMcEIKDbXCLFbRCDQDBbNFuOCGCbMCGCIBBBBBB",
     "BbFCcBBHBBDDBHDECGENFDBHPCbXCTBbCBNBQNbZNEBDMRBEBCKBBCGGBBBBBBQCEFFEBRbPdzBiVGJMbMBBFBCcEHBP",
     "YJHBHBHBHBHBHBHBHBbGtXDZPBFCFEdICHBdRFbRBdQRbGbWQtSjtOcMbguFcPbUCkJDbCUbWEKBeLbLJCdZCcPCCBBB",
     "IVcCEBTcAMcSKKGYDBBbXCbKMbDDcNOLGbFBcDJOCKGXDcVYDCQCFKGCGCGJHBHBbRBOGeTBCCKGqnSMXEbXmnCoCCeC",
     "bMHMFFMBNBFBBBCBCBeEbHnZScMCcCbOMEQQQDCYDbGFBfFTKHbAEBBbAKdMDGCGCGCDbJMBbABTBCBPCObIeTcRcBfG",
     "BfAbDDbXPBbFbGNbEFbRFbECbKEIBFbQgCCKGbKEbKEbOIcAMLBPBHBCBLBPBHBCDcAMlZJWKIYGBbQBJcRGCBBbSBCD",
     "BCXKXJbFcNTBCKWKbAcScEGCcMEBCFIBDBbDCDEBbGbDDbDbJIBbEZcCKWKTNSeGcVcDbZNbZNbOIKGbMDFBXjQbQBCD",
     "CQDcDbHKBIbHbFWbQVbBXJcTbFQJcIHBNZHKGcBBKEEIbKCBJcREEBNBBbJSBbLGEcKHBBBEBPBKHcHFKGEBICCCWBHB",
     "CBFBKCCCDCBGBFHCHDFLKBBCBBbMBKBBCBBEBINCbDcXFKEEbEcSBBIKgKcCCJXGbIcNDBLKbMcFHKGUbCbBCPEKGHhD",
     "cHdXcWVICBCIBCBbEBCCJMKcSICbUCIBCbBcLIBIcWDBScVhRbHPKGJBbTBJPKYbECWBOcVHBCBbSDBBCBJIKGGBCBbL",
     "BCBGHKlYXJRBbPDFNLdHBdBbjMdYeHRhOdxKdTPbpGQWKfxRFwLkdDcGcoSvXHbFBKGdBBKGbECFLcDJEMKJVFTqQbTD",
     "KhQcMeYcXEcFHRcMCBCLCOjcAIbvQbPKnfREBHBCBlFPBbDDCBOEIpGdkUeDFNDJHKDCgeRKtYbUCXuWFDGIICHbEEfS",
     "DrBdHBcTBCCBCCCEBMBBBHBcNBECIBHBbCBEBFBBDHBnCCZBZBbFBZBbFBZBbFBZBbFBZBICbYtScDEbYIBOBWFBPbqM",
     "bFGGiFHBRCHBCBFFcKbHBeIbTDOCKEBmJbFRcGsCbQiGbRsRHBEBCBPBhPLHbPcYEKbtUEBbBBCBBCBBKBEBBBBGBEBB",
     "BBBBDBCBBCBBBBBBBBBBCBBCEBHBEBEBBBKBRFDBFBRfaAKbnQclfCbGgdUGiOCinQOlbLPxYdqWuWcfYhhZFgfGbonh",
     "GjG"]⟩,
  ⟨["ids", "idstart"],
    ["cNbAGbAbVBKBEBFXBbFBrQEMOFHBBBeZFBCCEBBGBBDBBBUBdFBfJIgKBbMCBGbPcTbBEEbTbRbJCBdVBBPCHCKDCBQB",
     "BbEbDdLLBYbHJCEBFWEBJBDBXZHLFYBGRbQcGcCDBSBHKPQEICCCWBHBBDEDBQBNCBDOCKBIGECCWBHBCBCBCbFEBBTD",
     "QJBDBWBHBCBFDBSBPCXBLICCCWBHBCBFDBbECBDPBRBBGDDBEDCBBBCDCDDDMWBcAIBDBXBQDBbADCBCCbEBEIBDBXBK",
     "BFDBbFCBCPCRJBDBbPCBQBFDIDYGFSDYBJBBCHcGbWBCMHcGCBBBFBYBBBKBCJBCFBBVEbGBcLIBbKbBFeLbRUBQGEED",
     "BDCHDENMBRbMBBFBCbRBmVBECHBBBECbPBECbHBECHBBBECPBcFBECcPbLQQdICGDxWCRBbAFcXDLHSNTOSONBDPcAbJ",
     "BEBcPdLHbPBBFcSKbFbXbECFLbSEbAcCXJcBdEBdPbVRIcCbENCKbSbAbKbPDKbKCLFbRCDbPEBGBCDBFhKcMkSCGCbM",
     "CGCIBBBBBBBbFCcBBHBBDDBHDECGENFDBHeMBNBQNdXBEBCKBBCGGBBBBBBQCEFFEBRbPdzBiVGEDCMbMBBFBCcEHBQX",
     "JHBHBHBHBHBHBHBHvEDZJHFCFEdIEFBdMBEFbRBdQRbGbWQtSjtOcMbguFcPbUCkJDQKCUbVQbFCdCbNJCdZCcPCCBBB",
     "IVQBDBEBXbDcAObYcKGDBBCLbCKXZbDHbVbCBQFBKKFBbPXDBIUXDBDbYBBDCCFCBBBYDCLHDMGCGCGJHBHBbRBOGeLb",
     "DqnSMXEbXmnCoCCeCbMHMFFBBKBNBFBBBCBCBeEbHnZScMCcCbOMeMFBfFbKbAGbALdLDGCGCGCDbJMBbABTBCBPCObI",
     "eTcRcBkHbDDbXbVbGNbEFbMKbECbKEIBFbQgCSbKEbKEbOIcAMLBPBHBCBLBPBHBCDcAMlZJWKIYGBbQBJcRGCBBbSBC",
     "DBCXKXJbFcNTBCKWKbAcScEGCcMBPEBDBbDbQbDDbDbJIBbCbBcCKWKTNSeGcVcDbZNbZNbKbMbCJXjQbQGCQDcHbDKB",
     "IWbQSbUVbBXMcBcFCCBNbTbGZbAbKbDBCBIbJDBMbWOEVBBBbJSBZTCcLHBBBEBPBKHbVbMICCCWBHBCBFDBSBMFbEKB",
     "BCBBbMBBZBBBbScBSEUDbEbWUCBBhCbVbPEbKbWUBcHbRNBcTbBbLHhDbSeMcMbFICBCIBCBYPBBBdQICbNQBBBbCBKb",
     "OHBVBLbUTBScVhRbHbFJBbLRBbXbEeIHBCBbMVBZGBCBbGOBmPTPBBNBbIeUBdBbjMdYeHRhOdxKdTPbpGRGZfxRFwLk",
     "dDbEcpUvXHbFRdBRbESbWQEbFVFTqQbTiDcMeYcXFBcONcMCBBbCjcAIbvQbPKnfREBHBCBlFPBbDDCBOEIpGdkUeDFN",
     "DJHKiwKdHBcTBCCBCCCEBMBBBHBcNBECIBHBbCBEBFBBDHBnCCZBZBbFBZBbFBZBbFBZBbFBZBIcsYbFGGkBcKfQbTKH",
     "QBmJbESbSsQbCiUbECBtBHBEBCBPBhPcHcQHBbuIEBbBBCBBCBBKBEBBBBGBEBBBBBBDBCBBCBBBBBBBBBBCBBCEBHBE",
     "BEBBBKBRFDBFBRgoAclfCbGgdUGiOCinQOlbLPxYdqWuWcfYhhZFgfG"]⟩,
  ⟨["ideo", "ideographic"],
    ["seWCZJODblDjtOcMbfbKbhsIoCCeCbsiKBbBjcAIbvQbPKnuLpGbdeIclfCbGgdUGiOCinQOlbLPxYdqWuWcfYhhZFgf",
     "G"]⟩,
  ⟨["joinc", "joincontrol"],
    ["mdOC"]⟩,
  ⟨["loe", "logicalorderexception"],
    ["fkIFeTFedSDCBccxMCCBBC"]⟩,
  ⟨["lower", "lowercase"],
    ["dTbAbVBKBEBbKYBIBBBBBBBBBBBBBBBBBBBBBBBBBBBBBBBBBBBBBBBBBBBBBBBBBBBBBBBCBBBBBBBBBBBBBBBCBBBB",
     "BBBBBBBBBBBBBBBBBBBBBBBBBBBBBBBBBBBBBBBBBBCBBBBDCBBBCBDCEBCBDDCBCBBBBBCBBCBBCBDBBBCCCDGBCBCB",
     "BBBBBBBBBBBBBBBCBBBBBBBBBBBBBBBBBCCBBBDBBBBBBBBBBBBBBBBBBBBBBBBBBBBBBBBBBBBBBBBBBBBBBBBBBBBB",
     "BBBBBHCBCCBBEBBBBBBBBcRBbKHCbEFdSBbRBBBDBCESBbBbJBCDDBBBBBBBBBBBBBBBBBBBBBBBFBBCBCCbZbWBBBBB",
     "BBBBBBBBBBBBBBBBBBBBBBBBBBBBBJBBBBBBBBBBBBBBBBBBBBBBBBBBBBBBBBBBBBBBBBBBBBBBBBBBBBBCBBBBBBBB",
     "BBBBCBBBBBBBBBBBBBBBBBBBBBBBBBBBBBBBBBBBBBBBBBBBBBBBBBBBBBBBBBBBBBBBBBBBBBBBBBBBBBBBBBBBBBBB",
     "BBBBBBBBBbWbPehBbRBEbdGGdfUJBBeNhKcNBBBBBBBBBBBBBBBBBBBBBBBBBBBBBBBBBBBBBBBBBBBBBBBBBBBBBBBB",
     "BBBBBBBBBBBBBBBBBBBBBBBBBBBBBBBBBBBBBBBBBBBBBBBBBBBBBBBBBBBBBBBBBBBBBBBBBBBBBBBBBBBBBBBBBBBB",
     "JBBBBBBBBBBBBBBBBBBBBBBBBBBBBBBBBBBBBBBBBBBBBBBBBBBBBBBBBBBBBBBBBBBBBBBBBBBBBBBBBBBBBBBBBBBB",
     "BBBBBBJIGKIIIIGKIIIIOCIIIIIIFBCGBDDBCIECCIIKDBCeRBNBQNeFBDCDBbBBEBEBCCIEEBbHQEBbgLbActQbWBBD",
     "CBBBBBBEBBCBIDBBBBBBBBBBBBBBBBBBBBBBBBBBBBBBBBBBBBBBBBBBBBBBBBBBBBBBBBBBBBBBBBBBBBBBBBBBBBBB",
     "BBBBBBBBBBBBBBBBBBBBCHBBBEBMbMBBFBbtwDBBBBBBBBBBBBBBBBBBBBBBBBBBBBBBBBBBBBBBBBBBBBBTBBBBBBBB",
     "BBBBBBBBBBBBBBBBBBDfDBBBBBBBBBBBBDBBBBBBBBBBBBBBBBBBBBBBBBBBBBBBBBBBBBBBBBBBBBBBBBBBBBBBBBBB",
     "BBBKBBBBCBBBBBBBBBEBBBCBBDBBBBBBBBBBBBBBBBBBBBFBFBBBBBBBBBBBBBBBEBBBCBDBBBBBBBBBBBWDBBBDbfPb",
     "RBOGdCbeaIHMFboZbAbvHbOfGbKfZLBPBHBCrJBCDBbQBJbxLbZeVWegObGbgjWbGbmmKbAbAHBSbAbAbAEBBBHBLbAb",
     "AbAbAbAbAbAbAbAbAbAbAbAbAbAbAbAbCbCZBGbAZBGbAZBGbAZBGbAZBGBBcsYKBUGGkBcKdhSbI"]⟩,
  ⟨["math"],
    ["bRBQDbFBbDBBBbTBEBbLBbFBbcADCBbACCDuHDjwNBbBDLBDBNBOEVFLFcNNEBDCEFSBEBCKBBCGGBDCCCBDBGDOBBcQ",
     "YBGBCECEbGBBGCOkIIEUCdMBbEbBBBYBLHrDCMKEGECCCDFOBBBCGLIFCcFBBBbDEJDmYcMjWtSbWVCGdasQBbfRGBBg",
     "GBQDbDBBBbDBBBfBBGEfeFCcxdWdHBcTBCCBCCCEBMBBBHBcNBECIBHBbCBEBFBBDHBnCClGCbYiiQEBbBBCBBCBBKBE",
     "BBBBGBEBBBBBBDBCBBCBBBBBBBBBBCBBCEBHBEBEBBBKBRFDBFBRcAC"]⟩,
  ⟨["mcm", "modifiercombiningmark"],
    ["ckICCBfBBGBDCsNCBDDBbFB"]⟩,
  ⟨["nchar", "noncharactercodepoint"],
    ["dsdCbGuGCdsyOCdsyOCdsyOCdsyOCdsyOCdsyOCdsyOCdsyOCdsyOCdsyOCdsyOCdsyOCdsyOCdsyOCdsyOCdsyOC"]⟩,
  ⟨["oalpha", "otheralphabetic"],
    ["bgFBbDNwEOBBBCBCBBcULbWNBHQBdXHEECCEBbJBbEQdYLdXCDJBDBEeCBcIMDHGUcCCCPBCFDKCbDDcGHCCCCKBKCbD",
     "DcGFECCCEBbECDBLDcGIBDBCVCWDEDcGHCCCCJCKCbEBcHFDDBDKBbOFcFHBDBDICLCbDDcGHBDBDICLCPBMEcGHBDBD",
     "KBKCbDDcXGBBBISCcJBCHSBdVBCGBCQBgHTJLBbKeGMBBCEXEEDBDCHDENMBBKEclOCbECbECbECcOThGCbIBeOMEJiO",
     "FcFKCUcWCLDbXFbWPcIDbEJCCcFLbYTpWbIcoNcAdkGbGbtqAIbICnQBIBXFdKCbYQBBcFBbMFbCMbTEbWMbLBcPOMBI",
     "CbTDbYBBDCCFBbSFFBjDIbdzVBdeDFcmGDBCFEbeIEcNBmJCdBBjZDcBObTCLDbTJJBcJDbKMSCcFDbWNOCdOJCBGBCB",
     "gBKXEcGHCCCCKBKCdGJBBCBBEBCdZNBDeCSjDHCHbDCdEPBBeCLdZOjXNjNGBCCCDBBBfMHCGEBbCKbQFBESLbUOpRIB",
     "HdFWBOeSGDBBCBDBBDBcOFBCBEnKEJCBBbWHDDyyNRfjCBBcDHEdPCbdaYBnkJHBRCHBCBFdWBdhVBczWbAGbAGbA"]⟩,
  ⟨["odi", "otherdefaultignorablecodepoint"],
    ["bgPBfiLCckHCdhNBglIBdacPBdBJbwmiHBBbEdSeYjGfiM"]⟩,
  ⟨["ogrext", "othergraphemeextend"],
    ["drYBYBnUBYBdYBYBiYBBBECBCJCdZBYBePBPBdmRBbEBbnKBFBBBFCdXBcTCboIBgcVCbtwTBeEBbgnLCgwMBeMBkEBO",
     "BJBdSBJBCBBDFBiQBMBjHBkCByJBMBchFBbeoKCbkxNCGGbtlaZdS"]⟩,
  ⟨["oidc", "otheridcontinue"],
    ["hBBbbRBgaJJclCBciZCgkRBdaeJB"]⟩,
  ⟨["oids", "otheridstart"],
    ["jhLCdgJBVBfvWC"]⟩,
  ⟨["olower", "otherlowercase"],
    ["gOBPBtHJHCbEFdSBcABfcZBepZcLNBbIbLbaNBNBQNiDQbgQbAcwOCbugKCiCBeZDDCbhIEJBbiwSBCDBbQBJddzHcK"]⟩,
  ⟨["omath", "othermath"],
    ["dQBbhXDCBbACCCkqYBbBDLBbGEYCOCcNNEBDCEFSBEBCKBBDFGBDCCCBDBGDEFFcXFCEBCBCBBBFCCECESCCBBBHBBGC",
     "lEEgMCBBYBRBrDCMJFFFCCCDFOBBBCGYCcFBBBbDEJCnECbFKpNWcLEbGCdclFBBBEBiDBBBdcoVdHBcTBCCBCCCEBMB",
     "BBHBcNBECIBHBbCBEBFBBDHBnCCZBZBbFBZBbFBZBbFBZBbFBZBICbYiiQEBbBBCBBCBBKBEBBBBGBEBBBBBBDBCBBCB",
     "BBBBBBBBBCBBCEBHBEBEBBBKBRFDBFBR"]⟩,
  ⟨["oupper", "otheruppercase"],
    ["mqQQbgGbAgsiYbAGbAGbA"]⟩,
  ⟨["patsyn", "patternsyntax"],
    ["bHPKHbAEBBbAEbIHBBBCBBBCEBEBDBXBbFBluEYIPCTBKlTbbSgEyGbEbrOtSeYoVDEZPBczqZCkBC"]⟩,
  ⟨["patws", "patternwhitespace"],
    ["JFSBdWBlyMCYC"]⟩,
  ⟨["pcm", "prependedconcatenationmark"],
    ["chCGiHBbXBoUCdCBdvxYBPB"]⟩,
  ⟨["qmark", "quotationmark"],
    ["bIBEBfBBPBlwUIZCfiDBrPENDdabPEhHBEBdMC"]⟩,
  ⟨["radical"],
    ["rpWbABdLMiG"]⟩,
  ⟨["ri", "regionalindicator"],
    ["hgoKbA"]⟩,
  ⟨["sterm", "sentenceterminal"],
    ["bHBMBQBcaBBfRDgYBbRDjMBcJBBBDClHCcpWCbeKBECbdTBhQCgBCbTBFBmCCnQEgGCKCCCbDDhFCcNCbjWBXCJDeuXD",
     "lUBNBWCqNBbshWBkKCiTBDBoSCdICdRBfWCfRDfOCjPBbfcWBCCcHBDCgNBMBQBcNBedWCbxDFbSEhHCeNEeXDeZCGBQ",
     "CdKCBCeEBlMCeNCoJCFPeBCjPDtXBBBjRCdJCqECbaQCcWCbcmBCfDBcNCLBvHClKBbdoGBliMB"]⟩,
  ⟨["sd", "softdotted"],
    ["eBChOBkVBbEBcABUBmIBdUBBBjmNBbZBNBDBfCBgBBqFBiGCegGBgelHCbYCbYCbYCbYCbYCbYCbYCbYCbYCbYCbYCbY",
     "CdfYBlTCbAB"]⟩,
  ⟨["term", "terminalpunctuation"],
    ["bHBKBBBLCDBbfYBIBtTBcFBcUBOBBDgYBbRLBBjBCcCGBIbFBkBCbwUCgQBEGlZCbeJIbdTBeUDcTCgBDDBbNECCmCCn",
     "QEgGCKCBDbDDhFFcKCbjWBXCJDeuXDlUBNBEBKBBCDCqMCbshVCkJDiTFoSCdICdRBfVDfRDeXBQCjPBbfcWBCCcFDBE",
     "gNBKBBBLCDBcNBCBbpQBbWBbsOBhRBlYCfWGcQGdLEbkQFbSEhHHeIEeXDeZCGBQCdKFeEBlMCeNDMCnUEDPeBCjPDtX",
     "BBBjRCdJCECpYDbTByVCcWCbyXFbamZCfDBcNDKBvHClJCbdoGBliLE"]⟩,
  ⟨["uideo", "unifiedideograph"],
    ["tsAjtOcMbfbKbicSCBBBCKBBBBCCDdveCclfCbGgdUGiOCinQOlbLPxYgrQhhZFgfG"]⟩,
  ⟨["upper", "uppercase"],
    ["cNbAdXXBHbHBBBBBBBBBBBBBBBBBBBBBBBBBBBBBBBBBBBBBBBBBBBBBBBBBBBBBBBCBBBBBBBBBBBBBBBCBBBBBBBBB",
     "BBBBBBBBBBBBBBBBBBBBBBBBBBBBBBBBBBBBBCBBBBDCBBBCBDCEBCBDDCBCBBBBBCBBCBBCBDBBBCDBHBCBCBCBBBBB",
     "BBBBBBBBBBCBBBBBBBBBBBBBBBBBCBCBBDBBBBBBBBBBBBBBBBBBBBBBBBBBBBBBBBBBBBBBBBBBBBBBBBBBBBBBBBBB",
     "HCBCCBBEBBBBBBBBlDBBBDBIBGBBDBBBCBRBJbJBCDDBBBBBBBBBBBBBBBBBBBBBBBFBCBBCCbZbWBBBBBBBBBBBBBBB",
     "BBBBBBBBBBBBBBBBBBJBBBBBBBBBBBBBBBBBBBBBBBBBBBBBBBBBBBBBBBBBBBBBBBBBBBBBBCBBBBBBBBBBBBCBBBBB",
     "BBBBBBBBBBBBBBBBBBBBBBBBBBBBBBBBBBBBBBBBBBBBBBBBBBBBBBBBBBBBBBBBBBBBBBBBBBBBBBBBBBBBBBBBBBCb",
     "MehDbMBBFBbbUdIdgLBGbRCDmIBBBBBBBBBBBBBBBBBBBBBBBBBBBBBBBBBBBBBBBBBBBBBBBBBBBBBBBBBBBBBBBBBB",
     "BBBBBBBBBBBBBBBBBBBBBBBBBBBBBBBBBBBBBBBBBBBBBBBBBBBBBBBBBBBBBBBBBBBBBBBBBBBBBBBBBBBJBBBBBBBB",
     "BBBBBBBBBBBBBBBBBBBBBBBBBBBBBBBBBBBBBBBBBBBBBBBBBBBBBBBBBBBBBBBBBBBBBBBBBBBBBBBBBBBBBBBBBJII",
     "GKIIIIGLBBBBBBBIIcUEMEMEMFLEkCBEBDDCDCBDFGBBBBBBECEKCFBbAQTBbfMbAcsUbWbWBBDCBBBBBBEBBCBIDBBB",
     "BBBBBBBBBBBBBBBBBBBBBBBBBBBBBBBBBBBBBBBBBBBBBBBBBBBBBBBBBBBBBBBBBBBBBBBBBBBBBBBBBBBBBBBBBBBB",
     "BBBIBBBEBbtyJBBBBBBBBBBBBBBBBBBBBBBBBBBBBBBBBBBBBBBBBBBBBBTBBBBBBBBBBBBBBBBBBBBBBBBBBBfFBBBB",
     "BBBBBBBBBDBBBBBBBBBBBBBBBBBBBBBBBBBBBBBBBBBBBBBBBBBBBBBBBBBBBBBBBBBBBBBKBBBBCBBBBBBBBEBBBCBB",
     "BDBBBBBBBBBBBBBBBBBBBBFBFBBBBBBBBBBBBBBBEBBBCDBFBBBBBBBYBbhaHbAbuZbOfGbKgALBPBHBCcqCbZgBWegO",
     "bGbgjWbGbmmQbAbAbAbAbAbABBCCBCCCEBIbAbAbACBECIBHbBCBEBFBBDHbBbAbAbAbAbAbAbAbAbAbAbAbEZbHZbHZ",
     "bHZbHZbHBgnLbIdbIbAGbAGbA"]⟩,
  ⟨["vs", "variationselector"],
    ["jcTDBBdjcAQbwnkYjG"]⟩,
  ⟨["wspace", "whitespace", "space"],
    ["JFSBdWBbABihJBdpNLbDCFBbVBfxWB"]⟩,
  ⟨["xidc", "xidcontinue"],
    ["bWKHbAEBBbAbVBKBBBCBFXBbFBrQEMOFHBBBReNBCDDBBGFBBBUBdFBfJBFCgKBbMCBGbPIbTBBBCBCBBIbBEEbDLFcW",
     "EdYBICKBTCBQcHCdXOcCEBCBCbUSbCELFYBGIcXBeZCKBTBICCCWBHBBDECJCCCEIBECBFCMKBBBCDBGECCWBHBCBCBC",
     "CBBFECCDDBHEBBHQLDBJBDBWBHBCBFCKBDBDCBPECKJHBDBICCCWBHBCBFCJCCCDHDECBFCKBBQCBGDDBEDCBBBCDCDD",
     "DMEFDDBECBGBOKQNBDBXBQCJBDBEHCBDCBCECKQEBIBDBXBKBFCJBDBEHCGCBECKBDMNBDBbZBDBFFEHFCKKGBDBSDYB",
     "JBBCHDBEGBBBIGKCCNcGFPBKbNCBBBFBYBBBXCFBBBHBKCEbGBXCGKLBBBBBEKBbKEUBSBbKJBcFcWGdACbMBBFBCbRB",
     "mVBECHBBBECbPBECbHBECHBBBECPBcFBECcPCDJJOQQdICGDxWCRBbAFcXDLHWJWLUMNBDBCMdGDBECCKbHDBLGdLHbR",
     "FcSKbFBMEMKbOCFLbSEbAGLbLbCEcLBbDCLGKNBIOBQbXcZDKRJMeMMcEIKDbXCLFbRCDQDBbNFuOCGCbMCGCIBBBBBB",
     "BbFCcBBHBBDDBHDECGENFDBHPCbXCTBbCBNBQNbZNEBDMRBEBCKBBCGGBBBBBBQCEFFEBRbPdzBiVGJMbMBBFBCcEHBP",
     "YJHBHBHBHBHBHBHBHBbGtXDZPBFCFEdICCCDBdRFbRBdQRbGbWQtSjtOcMbguFcPbUCkJDbCUbWEKBeLbLJCdZCcPCCB",
     "BBIVcCEBTcAMcSKKGYDBBbXCbKMbDDcNOLGbFBcDJOCKGXDcVYDCQCFKGCGCGJHBHBbRBOGeTBCCKGqnSMXEbXmnCoCC",
     "eCbMHMFFMBNBFBBBCBCBeEbHfJGiKScMCcCbOKGQQQDCYDbHBBBDBBBBBBBBeWTKHbAEBBbAKdMDGCGCGCDbJMBbABTB",
     "CBPCObIeTcRcBfGBfAbDDbXPBbFbGNbEFbRFbECbKEIBFbQgCCKGbKEbKEbOIcAMLBPBHBCBLBPBHBCDcAMlZJWKIYGB",
     "bQBJcRGCBBbSBCDBCXKXJbFcNTBCKWKbAcScEGCcMEBCFIBDBbDCDEBbGbDDbDbJIBbEZcCKWKTNSeGcVcDbZNbZNbOI",
     "KGbMDFBXjQbQBCDCQDcDbHKBIbHbFWbQVbBXJcTbFQJcIHBNZHKGcBBKEEIbKCBJcREEBNBBbJSBbLGEcKHBBBEBPBKH",
     "cHFKGEBICCCWBHBCBFBKCCCDCBGBFHCHDFLKBBCBBbMBKBBCBBEBINCbDcXFKEEbEcSBBIKgKcCCJXGbIcNDBLKbMcFH",
     "KGUbCbBCPEKGHhDcHdXcWVICBCIBCBbEBCCJMKcSICbUCIBCbBcLIBIcWDBScVhRbHPKGJBbTBJPKYbECWBOcVHBCBbS",
     "DBBCBJIKGGBCBbLBCBGHKlYXJRBbPDFNLdHBdBbjMdYeHRhOdxKdTPbpGQWKfxRFwLkdDcGcoSvXHbFBKGdBBKGbECFL",
     "cDJEMKJVFTqQbTDKhQcMeYcXEcFHRcMCBCLCOjcAIbvQbPKnfREBHBCBlFPBbDDCBOEIpGdkUeDFNDJHKDCgeRKtYbUC",
     "XuWFDGIICHbEEfSDrBdHBcTBCCBCCCEBMBBBHBcNBECIBHBbCBEBFBBDHBnCCZBZBbFBZBbFBZBbFBZBbFBZBICbYtSc",
     "DEbYIBOBWFBPbqMbFGGiFHBRCHBCBFFcKbHBeIbTDOCKEBmJbFRcGsCbQiGbRsRHBEBCBPBhPLHbPcYEKbtUEBbBBCBB",
     "CBBKBEBBBBGBEBBBBBBDBCBBCBBBBBBBBBBCBBCEBHBEBEBBBKBRFDBFBRfaAKbnQclfCbGgdUGiOCinQOlbLPxYdqWu",
     "WcfYhhZFgfGbonhGjG"]⟩,
  ⟨["xids", "xidstart"],
    ["cNbAGbAbVBKBEBFXBbFBrQEMOFHBBBeZFBCDDBBGBBDBBBUBdFBfJIgKBbMCBGbPcTbBEEbTbRbJCBdVBBPCHCKDCBQB",
     "BbEbDdLLBYbHJCEBFWEBJBDBXZHLFYBGRbQcGcCDBSBHKPQEICCCWBHBBDEDBQBNCBDOCKBIGECCWBHBCBCBCbFEBBTD",
     "QJBDBWBHBCBFDBSBPCXBLICCCWBHBCBFDBbECBDPBRBBGDDBEDCBBBCDCDDDMWBcAIBDBXBQDBbADCBCCbEBEIBDBXBK",
     "BFDBbFCBCPCRJBDBbPCBQBFDIDYGFSDYBJBBCHcGbWBBNHcGCBBBFBYBBBKBBKBCFBBVEbGBcLIBbKbBFeLbRUBQGEED",
     "BDCHDENMBRbMBBFBCbRBmVBECHBBBECbPBECbHBECHBBBECPBcFBECcPbLQQdICGDxWCRBbAFcXDLHSNTOSONBDPcAbJ",
     "BEBcPdLHbPBBFcSKbFbXbECFLbSEbAcCXJcBdEBdPbVRIcCbENCKbSbAbKbPDKbKCLFbRCDbPEBGBCDBFhKcMkSCGCbM",
     "CGCIBBBBBBBbFCcBBHBBDDBHDECGENFDBHeMBNBQNdXBEBCKBBCGGBBBBBBQCEFFEBRbPdzBiVGEDCMbMBBFBCcEHBQX",
     "JHBHBHBHBHBHBHBHvEDZJHFCFEdIGDBdMBEFbRBdQRbGbWQtSjtOcMbguFcPbUCkJDQKCUbVQbFCdCbNJCdZCcPCCBBB",
     "IVQBDBEBXbDcAObYcKGDBBCLbCKXZbDHbVbCBQFBKKFBbPXDBIUXDBDbYBBDCCFCBBBYDCLHDMGCGCGJHBHBbRBOGeLb",
     "DqnSMXEbXmnCoCCeCbMHMFFBBKBNBFBBBCBCBeEbHfJGiKScMCcCbOKePBBBDBBBBBBBBeWbKbAGbALcECbFDGCGCGCD",
     "bJMBbABTBCBPCObIeTcRcBkHbDDbXbVbGNbEFbMKbECbKEIBFbQgCSbKEbKEbOIcAMLBPBHBCBLBPBHBCDcAMlZJWKIY",
     "GBbQBJcRGCBBbSBCDBCXKXJbFcNTBCKWKbAcScEGCcMBPEBDBbDbQbDDbDbJIBbCbBcCKWKTNSeGcVcDbZNbZNbKbMbC",
     "JXjQbQGCQDcHbDKBIWbQSbUVbBXMcBcFCCBNbTbGZbAbKbDBCBIbJDBMbWOEVBBBbJSBZTCcLHBBBEBPBKHbVbMICCCW",
     "BHBCBFDBSBMFbEKBBCBBbMBBZBBBbScBSEUDbEbWUCBBhCbVbPEbKbWUBcHbRNBcTbBbLHhDbSeMcMbFICBCIBCBYPBB",
     "BdQICbNQBBBbCBKbOHBVBLbUTBScVhRbHbFJBbLRBbXbEeIHBCBbMVBZGBCBbGOBmPTPBBNBbIeUBdBbjMdYeHRhOdxK",
     "dTPbpGRGZfxRFwLkdDbEcpUvXHbFRdBRbESbWQEbFVFTqQbTiDcMeYcXFBcONcMCBBbCjcAIbvQbPKnfREBHBCBlFPBb",
     "DDCBOEIpGdkUeDFNDJHKiwKdHBcTBCCBCCCEBMBBBHBcNBECIBHBbCBEBFBBDHBnCCZBZBbFBZBbFBZBbFBZBbFBZBIc",
     "sYbFGGkBcKfQbTKHQBmJbESbSsQbCiUbECBtBHBEBCBPBhPcHcQHBbuIEBbBBCBBCBBKBEBBBBGBEBBBBBBDBCBBCBBB",
     "BBBBBBBCBBCEBHBEBEBBBKBRFDBFBRgoAclfCbGgdUGiOCinQOlbLPxYdqWuWcfYhhZFgfG"]⟩]

end ApiContract.Unicode
