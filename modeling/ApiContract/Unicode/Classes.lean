import ApiContract.Unicode.CodePointSet

/-!
The character classes that texts and patterns ask for beyond ASCII.
-/

namespace ApiContract.Unicode

/-- White space of every script. -/
def blanks : CodePointSet := .ofLines
  ["JFSBdWBbABihJBdpNLbDCFBbVBfxWB"]

/-- Decimal digits of every script. -/
def decimalDigits : CodePointSet := .ofLines
  ["bWKciOKfEKhQKpWKeOKeOKeOKeOKeOKeOKeOKeOKeOKdSKeOKcSKkSKcSKctQKbMKlOKeYKgKKGKhAKdIKfEKGKcaeOKba",
   "CKbMKhQKWKdIKpQKbfmCKccKKdfYKGKbeQKeYKcIKfOKkSKnEKeOKoKKdYKGUcYKqGKdYKzMKdIKjMKcSKqGKyyGKdmCKd",
   "IKfEKuOKbkdYKecQbYdnCKqGKtIKjNKbgVKhbAK"]

/-- Letters, marks, decimal digits, connecting punctuation and joiners. -/
def wordChars : CodePointSet := .ofLines
  ["bWKHbAEBBbAbVBKBEBFXBbFBrQEMOFHBBBReNBCCEBBGBBDBBBUBdFBfJBgRBbMCBGbPIbTBBBCBCBBIbBEEbDLFcWEdYB",
   "ICKBTCBQcHCdXOcCEBCBCbUSbCELFYBGIcXBeZCKBTBICCCWBHBBDECJCCCEIBECBFCMKBBBCDBGECCWBHBCBCBCCBBFEC",
   "CDDBHEBBHQLDBJBDBWBHBCBFCKBDBDCBPECKJHBDBICCCWBHBCBFCJCCCDHDECBFCKBBQCBGDDBEDCBBBCDCDDDMEFDDBE",
   "CBGBOKQNBDBXBQCJBDBEHCBDCBCECKQEBIBDBXBKBFCJBDBEHCGCBECKBDMNBDBbZBDBFFEHFCKKGBDBSDYBJBBCHDBEGB",
   "BBIGKCCNcGFPBKbNCBBBFBYBBBXCFBBBHBKCEbGBXCGKLBBBBBEKBbKEUBSBbKJBcFcWGdACbMBBFBCbRBmVBECHBBBECb",
   "PBECbHBECHBBBECPBcFBECcPCDbGQQdICGDxWCRBbAFcXDLHWJWLUMNBDBCMdGDBECCKbHDBLGdLHbRFcSKbFBMEMKbOCF",
   "LbSEbAGKbMbCEcLBbDCLGKNBIbFbXcZDKRJMeMMcEIKDbXCLFbRCDQDBbNFuOCGCbMCGCIBBBBBBBbFCcBBHBBDDBHDECG",
   "ENFDBHPCbXCTBbCBNBQNbZbHRBEBCKBBDFGBBBBBBEBLCEFFEBRbPbfHcAcrUiVGJMbMBBFBCcEHBPYJHBHBHBHBHBHBHB",
   "HBbGbVBsBDZPBFCFEdICCCDBdMBEFbRBdQRbGbWQtSjtOcMbguFcPbUCkJDbCUbZBKBeLbLJCdZCcPCCBBBIVcCEBTcAMc",
   "SKKGYDBBbXCbKMbDDcNOLGbFBcDJOCKGXDcVYDCQCFKGCGCGJHBHBbRBOGeTBCCKGqnSMXEbXmnCoCCeCbMHMFFMBNBFBB",
   "BCBCBeEbHnZScMCcCbOMEQQQDCYDbGFBfFTKHbAEBBbALdLDGCGCGCDbJMBbABTBCBPCObIeTcRcBfGBfAbDDbXPBbFbGN",
   "bEFbRFbECbKEIBFbQgCCKGbKEbKEbOIcAMLBPBHBCBLBPBHBCDcAMlZJWKIYGBbQBJcRGCBBbSBCDBCXKXJbFcNTBCKWKb",
   "AcScEGCcMEBCFIBDBbDCDEBbGbDDbDbJIBbEZcCKWKTNSeGcVcDbZNbZNbOIKGbMDFBXjQbQBCDCQDcDbHKBIbHbFWbQVb",
   "BXJcTbFQJcIHBNZHKGcBBKEEIbKCBJcREEBNBBbJSBbLGEcKHBBBEBPBKHcHFKGEBICCCWBHBCBFBKCCCDCBGBFHCHDFLK",
   "BBCBBbMBKBBCBBEBINCbDcXFKEEbEcSBBIKgKcCCJXGbIcNDBLKbMcFHKGUbCbBCPEKGHhDcHdXcWVICBCIBCBbEBCCJMK",
   "cSICbUCIBCbBcLIBIcWDBScVhRbHPKGJBbTBJPKYbECWBOcVHBCBbSDBBCBJIKGGBCBbLBCBGHKlYXJRBbPDFNLdHBdBbj",
   "MdYeHRhOdxKdTPbpGQWKfxRFwLkdDcGcoSvXHbFBKGdBBKGbECFLcDJEMKJVFTqQbTDKhQcMeYcXEcFHRcMCBCLCOjcAIb",
   "vQbPKnfREBHBCBlFPBbDDCBOEIpGdkUeDFNDJHKDCgeRKtYbUCXuWFDGIICHbEEfSDrBdHBcTBCCBCCCEBMBBBHBcNBECI",
   "BHBbCBEBFBBDHBnCCZBZBbFBZBbFBZBbFBZBbFBZBICbYtScDEbYIBOBWFBPbqMbFGGiFHBRCHBCBFFcKbHBeIbTDOCKEB",
   "mJbFRcGsCbQiGbRsRHBEBCBPBhPLHbPcYEKbtUEBbBBCBBCBBKBEBBBBGBEBBBBBBDBCBBCBBBBBBBBBBCBBCEBHBEBEBB",
   "BKBRFDBFBRyEbAGbAGbAdyKKbnQclfCbGgdUGiOCinQOlbLPxYdqWuWcfYhhZFgfGbonhGjG"]

/-- Letters, and the marks that count as letters. -/
def letters : CodePointSet := .ofLines
  ["cNbAGbAbVBKBEBFXBbFBrQEMOFHBBBdIBbDSBCCEBBGBBDBBBUBdFBfJIgKBbMCBGbPbNOBBBCBCBBIbBEEbDLFcEBHOdY",
   "BIEIEDKDCBQbWNdXYbHJCEBFYCTTZHLFYBGIBIbQKMDHGcYBQBDEPNTBICCCWBHBBDEDICCCCBBIBECBFMCKBEDBGECCWB",
   "HBCBCBCEFECCCEBHEBBRGLDBJBDBWBHBCBFDJBDBCDBPEVEEDBICCCWBHBCBFDICCCCJCECBFNBQCBGDDBEDCBBBCDCDDD",
   "MEFDDBDDBGBbONBDBXBQDIBDBDICBDCBCEbCEBIBDBXBKBFDIBDBDICGCBENDMNBDBbPCIBDBDBBFEHFWGBDBSDYBJBBCH",
   "IGBBBISCNcGFHGBbZCBBBFBYBBBTBDCFBBGBOEbGBcLIBbKETEQBbKcPcDBBCFQcMKECbMBBFBCbRBmVBECHBBBECbPBEC",
   "bHBECHBBBECPBcFBECcPbLQQdICGDxWCRBbAFcXDLHULVMUMNBDBCMcACTOBEBcPdLHbRFcSKbFBMEJXbECFLbSEbAcCbC",
   "EcLCUbYBXCLDbXcABPBIbZbQCEKbSBLOcDWDKbKCLFbRCDbPEBGBCDBFhKTbILkSCGCbMCGCIBBBBBBBbFCcBBHBBDDBHD",
   "ECGENFDBHeMBNBQNdXBEBCKBBDFGBBBBBBEBLCEFFEBRbPbfHcAcrUiVGEDCMbMBBFBCcEHBQXJHBHBHBHBHBHBHBHBbGb",
   "VBsBDZJHFCFEdIGDBdMBEFbRBdQRbGbWQtSjtOcMbguFcPbUCkJDQKCUbVFIDeJbNJCdZCcPCCBBBIVUBbHYcAMcQBBbSG",
   "DBBDKbHFbJNbDDbZBMPBQQKFBcDJOSXDcRBBBBYDCQCELGCGCGJHBHBbRBOGeTVqnSMXEbXmnCoCCeCbMHMFFMBNBFBBBC",
   "BCBeEbHnZScMCcCbOMeMFBfFbKbAGbALdLDGCGCGCDbJMBbABTBCBPCObIeTcRcBkHbDDbXbVbGNbEFbRFbECbKEIBFbQg",
   "CSbKEbKEbOIcAMLBPBHBCBLBPBHBCDcAMlZJWKIYGBbQBJcRGCBBbSBCDBCXKXJbFcNTBCKWKbAcScEGCcMEBCFIBDBbDb",
   "QbDDbDbJIBbCbBcCKWKTNSeGcVcDbZNbZNbObIbCDBFXjQbQBCDCQDcDBDbDKBIWbQSbUVbBXJcSbRFKcFJBNZXbZREIbJ",
   "DBJcMBEJCKBBBbJSBbICBGEcKHBBBEBPBKHcFXEBICCCWBHBCBFDICCCCDBGBFHbCKBBCBBbMBKBBCBBEBCDBBBbScOBDB",
   "EUDbEcOCCBBhCcCCHZGbIcLBBDBcHcCCBcTbBCOVHhDcFdZcMbFICBCIBCBbEBCCCCEdPICbUCGBBBCbBbZCKRcUFBScVh",
   "RbHbFJBbTBHBBbXbECWBOcVHBCBbSDBBCBDBBCCYGBCBbLBCBEBBmPXJRBbPDDeHBdBbjMdYeHRhOdxKdTPbpGRGZfxRFw",
   "LkdDbVcpDvXHbFRdBRbESbWQEbFVFTqQbTiDcMeYcXEcFHRcMCBBMCOjcAIbvQbPKnfREBHBCBlFPBbDDCBOEIpGdkUeDF",
   "NDJHKEBiwFdHBcTBCCBCCCEBMBBBHBcNBECIBHBbCBEBFBBDHBnCCZBZBbFBZBbFBZBbFBZBbFBZBIcsYbFGGiFHBRCHBC",
   "BFFcKbHBeIbTKHQBmJbESbSsQbCiUbECBtBHBEBCBPBhPcHcQDBDBbuIEBbBBCBBCBBKBEBBBBGBEBBBBBBDBCBBCBBBBB",
   "BBBBBCBBCEBHBEBEBBBKBRFDBFBRyEbAGbAGbAfmKclfCbGgdUGiOCinQOlbLPxYdqWuWcfYhhZFgfG"]

/-- Letters and the numbers of every kind. -/
def lettersAndNumbers : CodePointSet := .ofLines
  ["bWKHbAGbAbVBHCBBDCBDBXBbFBrQEMOFHBBBdIBbDSBCCEBBGBBDBBBUBdFBfJIgKBbMCBGbPbNOBBBCBCBBIbBEEbDLFc",
   "EBREdYBIEIEQCBQbWNdXObRJCEBFYCTTZHLFYBGIBIbQKMDHGcYBQBDEPCKBTBICCCWBHBBDEDICCCCBBIBECBFCMCGCBE",
   "DBGECCWBHBCBCBCEFECCCEBHEBBHQLDBJBDBWBHBCBFDJBDBCDBPECKJEEDBICCCWBHBCBFDICCCCJCECBFCKBHKCBGDDB",
   "EDCBBBCDCDDDMEFDDBDDBGBONNNBDBXBQDIBDBDICBDCBCECKIHBEBIBDBXBKBFDIBDBDICGCBECKBDMNBDBbPCIBDBDBB",
   "FQCTBGBDBSDYBJBBCHIGBBBIGKCCNcGFHGBCKbNCBBBFBYBBBTBDCFBBGBCKCEbGBbFUMIBbKETEQBbKcPcDBBCPGdACbM",
   "BBFBCbRBmVBECHBBBECbPBECbHBECHBBBECPBcFBECcPOUDQQdICGDxWCRBbAFcXDLHULVMUMNBDBCMcACTOBEBDKGKWKG",
   "dLHbRFcSKbFBMEJNbOCFLbSEbAGLbLbCEcLCULKGKNBXCLDbXcABPBIDKbMbQCcGBLOcDJKDbXCLFbRCDbPEBGBCDBFhKT",
   "bILkSCGCbMCGCIBBBBBBBbFCcBBHBBDDBHDECGENFDBHeLCCGFLGNdXBEBCKBBDFGBBBBBBEBLCEFFEBBcGbbYcIbAcWyG",
   "bEbrOiVGEDCJBCbMBBFBCcEHBQXJHBHBHBHBHBHBHBHBbGbVBsBDZJHFCFEdIGDBdMBEFbRBdQDEKbGbWQbGKbEIBPbGKb",
   "NPmIjtOcMbguFcPbUCkJDbCUbVFIDeJbNJCdZCcPCCBBBIVUBbHIGKcAMcQBBKKYGDBBbUFbJNbDDbZBMPLGbFBcDJOCKG",
   "XDcRBBBBYDCQCELGCGCGJHBHBbRBOGeTFKGqnSMXEbXmnCoCCeCbMHMFFMBNBFBBBCBCBeEbHnZScMCcCbOMeMFBfFTKHb",
   "AGbALdLDGCGCGCDbJMBbABTBCBPCObIeTMbTMcFRCjKbDDbXQbBEbKJbEFbRFbECbKEIBFbQgCCKGbKEbKEbOIcAMLBPBH",
   "BCBLBPBHBCDcAMlZJWKIYGBbQBJcRGCBBbSBCDBCXCbFCbMIJbWTBCFbHEbAcScEEUCbYBCFIBDBbDKJXbFBbGbGIBbCGF",
   "QcCKWCbBFbAXHdCcVcDbZNbZHbUIKGbMDBFXiKbFBbQBCDCQDcDBDbOIWLEbBSbUbCUXJcSMbEBFKcFJBNZHKGbZDKEEIb",
   "JDBJcMBEJNBBEULSBbICBGEcKHBBBEBPBKHcFHKGEBICCCWBHBCBFDICCCCDBGBFHbCKBBCBBbMBKBBCBBEBCDBBBbScOB",
   "DBEFKFDbEcOCCBBIKgKcCCHZGbIcLBBDBLKbMcCCBHKGUbCbBCOFMEHhDcFdZdFMICBCIBCBbEBCCCCENKcSICbUCGBBBC",
   "bBbZCKRcUFBScVhRbHPKGJBbTBHBBPbDFbECWBOcVHBCBbSDBBCBDBBCCIKGGBCBbLBCBEBBHKlYXJRBbPDDPKdIBPVbRb",
   "jMdYeHRhOdxKdTPbpGRGZfxRFwLkdDbVBKcoSvXHbFBKGdBBKGbESbWQEMKBHBVFTqQbTDKhQdJeBcXEcFHRcMCBBMCOjc",
   "AIbvQbPKnfREBHBCBlFPBbDDCBOEIpGdkUeDFNDJHKEBgeRKceWUMUeEZfFdHBcTBCCBCCCEBMBBBHBcNBECIBHBbCBEBF",
   "BBDHBnCCZBZBbFBZBbFBZBbFBZBbFBZBICbYcqYbFGGiFHBRCHBCBFFcKbHBeIbTKHCKEBmJbESbSEKsCbCEKiGbECLsRH",
   "BEBCBPBhPCJbWcQDBDBEKbeLcHBDBEcYbTBPhMEBbBBCBBCBBKBEBBBBGBEBBBBBBDBCBBCBBBBBBBBBBCBBCEBHBEBEBB",
   "BKBRFDBFBRwINbJbAGbAGbAdyKKbnQclfCbGgdUGiOCinQOlbLPxYdqWuWcfYhhZFgfG"]

def isBlank (c : Char) : Bool := blanks.contains c

def isDecimalDigit (c : Char) : Bool := decimalDigits.contains c

def isWordChar (c : Char) : Bool := wordChars.contains c

def isLetter (c : Char) : Bool := letters.contains c

def isAlphanumeric (c : Char) : Bool := lettersAndNumbers.contains c

/-- A text without the white space at its ends. -/
def trim (text : String) : String :=
  String.ofList ((text.toList.dropWhile isBlank).reverse.dropWhile isBlank).reverse

end ApiContract.Unicode
