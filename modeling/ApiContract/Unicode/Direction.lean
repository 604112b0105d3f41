import ApiContract.Unicode.CodePointSet

/-!
The direction in which characters are written, as far as host names ask for it.
-/

namespace ApiContract.Unicode

inductive WritingDirection where
  | leftToRight
  | rightToLeft
  | arabicNumber
  | europeanNumber
  | neutral
  /-- A mark without a direction of its own. -/
  | mark
deriving DecidableEq, Repr

/-- Letters that are written from right to left. -/
def rightToLeftChars : CodePointSet := .ofLines
  ["ceOBBBCBCBJbBEGTBCBBBNBBbUbIDBEEdPPCHCKUCBBbEbDdLLBObRJCEBDYEBJBDBHPBZFBBLFbFRbQdnzSRbaMBdqAGC",
   "BBbSBCDBCXBcUIJbWTBCFbHEbAFBcMcEEUCbVPEBDBbDKJHJHcMbGbLGMJcCKWCbBFbAHEMHdCcVePbZHbQbMGbEYICjGb",
   "QDBCCQDcHbOIWLJWSEEbMbCUXddvDhPCJdEbIHBEKECbeFcQcYcJ"]

/-- Digits that are written from left to right within text from right to left. -/
def arabicNumbers : CodePointSet := .ofLines
  ["ckUKBCdvnFKGKkSbF"]

def europeanNumbers : CodePointSet := .ofLines
  ["bWKcoCKdrkHbB"]

/-- Separators, terminators and symbols. -/
def neutralChars : CodePointSet := .ofLines
  ["AJFOFPKHbAGbAFbHHBBBCBBBCECDBDBXBbFBrHCHOCGGCFJBReNBeYBpNBCDeOCBCBBBCdMBeLBKBkIEtKCHBjLBjXIeVH",
   "rGBjQEbqOKdYBzQCmGBUKGLlXBDCfWbIchOCCBBFBMDBIDCBCEBBBIDNBHcNIBYcPBDBLBCCFCDBBBBBBBEBLBGEFEcICE",
   "gACBCjOCLcRbABfSWLgErHBnBjWkIBdZDdXBfVCbGBeBiVGOHjWdQbIbABEBdFkKBBCDZPBGBFDdSBdMBhObMkoGcMbguI",
   "cDmODdVBKCeYbIdYBgDEMCcGEbdACbezQSeXBbTDcRCbaWBcKcZDNDBcvUBuRHbxYUcgWNdoQbDbehCBbiwZiGbQqUbfPC",
   "VcODBhEdJfyEBenOCkKbSEdWMPCPBPBbLVFbFBcJDcJBgWGfYblWERDNDePEdRGMEBPMEcEIKGbOIbECMECcKnCMOCNDKF",
   "cEHPCLGJHfRBdO"]

def nonspacingMarks : CodePointSet := .ofLines
  ["bdOcMCBDJBbGkPHkDbTBBBCBCBBcULbWVQBdXHCGCCBEbJBbEbBdNLcGJJBYEBJBDBFbRDcHJbQYBbGcDBBBEIEBDHKCbD",
   "BcGBEEIBUCbABCCcFBECECCDDBbECDBLCcFBEFBCEBUCWGBBcGBCBBEIBHCLCbEBcJBMBbYBDBcDBBDFDBEHCLCbDBcGBP",
   "CUCbCCcFCEEIBUCbDBcUBHDBBdMBCHMIdUBCJLHcVCbBBBBBBcDCBBFFBBBDBCFGBEBEBEBEBEBMBDJBdYEBGBCCCZCEDQ",
   "ENBCCGBPBbbBDbkKDbDCbECbECcPHIBCLJBgLCbIBeODECJBGDiLCCBcGBBHBBBBCIGKCBbWbFbXEbWBBFBBFBbOJMCbGE",
   "CCBDcEBBCDBBDcGICCfWDBNBHEBGBDChQcMbbSbHeoCDfLBdSbGvIEeDCbsqEEBKbGCdCCkMBDBEBZCFBfVCbASNBbMIZL",
   "bUDbWBCECCbNBcPGCCCCMBIBbVBbZBBDCCFCBBbQCIBjEBCBEBbdzSBbdPQblLBiSBfTFcmGDBCFEbODEBgJCwBEcNFmFC",
   "dBEcSLbXEeTBcCPbPBCCKDbXECCHBcJDbKFBIcKBMCcAJKECBdRDCBBCGBCBgBBDIVCcFCDBbLHDFcSGNBBBBBOCdHICDB",
   "BXBdGGBBECBCjEEGCBCbBCdHICBBCeCBBBCGBBdXDCEBFjZJBCjWCBBEBfOECCEBbGGCCbOGCEIBJGCDbUNBCpQHBGdGWC",
   "HBCBCeSGDBBCBHBBcUCDBBBnJCLCcAFFBBBXBhxTBGPqyYMDDdsAFcHHboIBcLEdDBbdbKCgyZbUCXuYDRICHbEEfSDcyD",
   "cDEbYIBOBWFBPcaIHBRCHBCBFdWBgEHoLBcJEtOEjUCbcIHeFH"]

/-- The direction of a character; most are written from left to right. -/
def direction (code : Nat) : WritingDirection :=
  if rightToLeftChars.containsCode code then .rightToLeft
  else if arabicNumbers.containsCode code then .arabicNumber
  else if europeanNumbers.containsCode code then .europeanNumber
  else if neutralChars.containsCode code then .neutral
  else if nonspacingMarks.containsCode code then .mark
  else .leftToRight

end ApiContract.Unicode
