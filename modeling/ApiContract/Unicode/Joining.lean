import ApiContract.Unicode.CodePointSet

/-!
How letters join their neighbours in cursive scripts.
-/

namespace ApiContract.Unicode

/-- Letters that join what follows them alone. -/
def joiningAfter : CodePointSet := .ofLines
  ["cluOBblgKBJBvGBbbMB"]

/-- Letters that join what stands before them alone. -/
def joiningBefore : CodePointSet := .ofLines
  ["ciKEBBBBFEVBbODUSbMBCJBBBBCCBBYCbGBEFEBJBBBBBCBbDBLDPCEBBCDChQBFCBBKBBDOBBCFTLBbBDBBCCGBdtsTBB",
   "BBCDFKBDBCBKBfPBBDDBCBBCBBXEoJBpZBeIBbGBbFCcKDCCCBECFB"]

/-- Letters that join on both sides. -/
def joiningBoth : CodePointSet := .ofLines
  ["ciIBFBBBBFENBHBCbJCJPSbMBCJBBBBCbODCBSDFEBJBBBBBCbFLDPCEBBCDCGcWbHdIFCBBKBBKBBECBbDBCFSKFCCGBP",
   "fuCBYdLObIBBccjTbYblfYFOEBFBDKEfPBBBDDBCBBCBbCCnAbHBBpZCeDDBRMDbCECMbUBBCEBCCBCBBCBFBdehZbI"]

/-- Marks, which letters join across. -/
def transparentMarks : CodePointSet := .ofLines
  ["bdOcMCBDJBbGkPHkDbTBBBCBCBBcULbWVQBdXHCGCCBEbJBbEbBdNLcGJJBYEBJBDBFbRDcHJbQYBbGcDBBBEIEBDHKCbD",
   "BcGBEEIBUCbABCCcFBECECCDDBbECDBLCcFBEFBCEBUCWGBBcGBCBBEIBHCLCbEBcJBMBbYBDBcDBBDFDBEHCLCbDBcGBC",
   "BGBFCUCbCCcFCEEIBUCbDBcUBHDBBdMBCHMIdUBCJLHcVCbBBBBBBcDCBBFFBBBDBCFGBEBEBEBEBEBMBDJBdYEBGBCCCZ",
   "CEDQENBCCGBPBbbBDbkKDbDCbECbECcPHIBCLJBgLCbIBeODECJBGDiLCCBcGBBHBBBBCIGKCBbWbFbXEbWBBFBBFBbOJM",
   "CbGECCBDcEBBCDBBDcGICCfWDBNBHEBGBDChQcMbbSbHeoCDfLBdSbGvIEeDCbsqEEBKbGCdCCkMBDBEBZCFBfVCbASNBb",
   "MIZLbUDbWBCECCbNBcPGCCCCMBIBbVBbZBBDCCFCBBbQCIBjEBCBEBbdzSBbdPQblLBiSBfTFcmGDBCFEbODEBgJCwBEcN",
   "FmFCdBEcSLbXEeTBcCPbPBCCKDbXECCHBcJDbKFBIcKBMCcAJKECBdRDCBBCGBCBgBBDIVCcFCDBbLHDFcSGNBBBBBOCdH",
   "ICDBBXBdGGBBECBCjEEGCBCbBCdHICBBCeCBBBCGBBdXBBBCEBFjZJBCjWCBBEBfOECCEBbGKbOGCEIBJGCDbUNBCpQHBG",
   "BBdEWCHBCBCeSGDBBCBHBBcUCDBBBnJCLCcAFFBBBXBhxTBGPqyYMDDdsAFcHHboIBcLEdDBbdbKCgyZbUCXuYDRICHbEE",
   "fSDcyDcDEbYIBOBWFBPcaIHBRCHBCBFdWBgEHoLBcJEtOEjUCbcIHeFI"]

def joinsNext (code : Nat) : Bool := joiningAfter.containsCode code || joiningBoth.containsCode code

def joinsPrevious (code : Nat) : Bool := joiningBefore.containsCode code || joiningBoth.containsCode code

def isTransparent (code : Nat) : Bool := transparentMarks.containsCode code

end ApiContract.Unicode
