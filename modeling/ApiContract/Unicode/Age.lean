import ApiContract.Unicode.CodePointSet

/-!
Ages: the version of the character set in which a code point was assigned, oldest first.
-/

namespace ApiContract.Unicode

/-- The code points that each version added. -/
def versions : List NamedSet := [
  ⟨["v11", "1.1"],
    ["AtIEbEcEdLHbVBKWcSbACSCEBDBFHBBBUBbSBHDBBBBBBBBSNMBcOBMBbPJcBCCCCDbCCICCcDbMCHBbNBBbMKBJMbBF",
     "FXBOBDBBbAFTNOCcUCFBPBbECKtZDBcBCSCFDZQDBICCCWBHBBDECBBHCCCDJBECBFCVHBCGECCWBHBCBCBCCBBFECCD",
     "LEBBHPMDBHBBBDBWBHBCBFCKBDBDCBPBFKRDBICCCWBHBCCECIDCCDICECBDELRCBGDDBEDCBBBCDCDDDIBDEFDDBEJB",
     "PMODBIBDBXBKBFEHBDBEHCJCEKSCBIBDBXBKBFEHBDBEHCHBBCEKSCBIBDBXBQEGCDBEJBICEKfPcGEbDbLCBBCCBBCB",
     "GEBHBDBBBBCCBNBDCFBBBGCKCCrIbMKbNEBEdMFcQFdEeoKfZFdMGWCGCbMCGCIBBBBBBBbFCcBBPBOCGBTCDBJBbVBX",
     "bJHDbBRLbLSbEcFbAbWNdNVjIOBBeRfDbLbBLVfJVfUKdCQUGdIfPEBECbCBbJBBBEDBBHCHObFDYBOddHcEHBBdGEGC",
     "dQGbOEdQBQdSbDDbKbCbCDbYPMEbVBePEdVCbFjwBbexYyjQjxUiCHMFGZBFBBBCBCBeEbHoBQcMCcCbOMbKEMVEKBTB",
     "EEDBBBfFCBBdQCdQDGCGCGCDDHBHOD"]⟩,
  ⟨["v20", "2.0"],
    ["ccVRBNUBdmXcUBbHHbBEGBBBVDHBBfqNBuHBcatWqnSdOdaUefbQCdsyOCdsyOCdsyOCdsyOCdsyOCdsyOCdsyOCdsyO",
     "CdsyOCdsyOCdsyOCdsyOCdsyOhlxI"]⟩,
  ⟨["v21", "2.1"],
    ["mjSBdgoTB"]⟩,
  ⟨["v30", "3.0"],
    ["tIEbEICSeNFbXBKFdJJTBeMBDBBBBBBBbEBMBcOBMBbQCCEdOCgABhSDdUCFBPBbQFBOBbEDbBcBbXcfHCBSDYBJBBCH",
     "DBEGBBBISDoJBbRBXDHBBDBPCBbWbIBFBCBHDEGbAqGHBcLBBBECHBBBECbNBBBECbFBBBECHBBBECHBHBXBbFBBBECH",
     "BbNBTGbCbJdHMyGJbDDdDfNdPDKWPBKGdKIbQcwBBYGdRDbYCdHCcUBdZJkJBeRBBbEfICrPIbHBdICpIjWccEbABdLM",
     "iGbAMcIDDBnPYwMjtEbfeGbsVDSCQBMBDBBbgsCBbvVD"]⟩,
  ⟨["v31", "3.1"],
    ["bmYCdqqCbGbxWbFBEMbBgZbMCbMczdQjMKbNDgYvAdHBcTBCCBCCCEBMBBBEBCBcNBECIBHBbCBEBFBBDHBnAElEEbYp",
     "dWcleTbetDuWbpcqTBbEdS"]⟩,
  ⟨["v32", "3.2"],
    ["uYBlQBTNeACbCBfRCcFCCCCCbXQnMCmJBdnHCchJNBHLXJUMNBDBCdiXBGFEBHFNBcKCbYHdEPgMMjIOeUBbEcAkYUfV",
     "KdKIWCdMMCKiOOdMbCEQjWtSbzNDdJCICdQBjGQdDPdDPbrdICQBMBDBbgjAcHbjDBDQcBCbSBjBC"]⟩,
  ⟨["v40", "4.0"],
    ["uZBSDePCcLRdCIFDfVFtWEJJcMDfTCPBbTDbDDqUBhCBcPBBBfGBdGDNBcPBcHBeZIhLCefNBSKkCbDDMEMEBDbQCFeD",
     "bGbdOeEbcPCiWBzJClQBkQCeMIOCbrAOcrNCbXBbRCdAEgLEdVCbFBjtOcMcoqVBcVCqXMBbABTBCBPCObIeTFDEbTDJ",
     "wEbEBBfECbMdCCKbgWGCBBbSBCDBCBcyuIdJnYBbtkdAjG"]⟩,
  ⟨["v41", "4.1"],
    ["vVLkSFgDEjMCgOBbIDcPBSBcGGjHbEuHBdCBsTBbVBbmNClJCBBkGBcLBcLBbNBbFBbFBbFBPBbNBXCbFbAcgCbQGbAG",
     "KECbGbCCCbgMdKzHCBHbXFbDEcBBdCBPByULwABdXCSLFQkKHbgHGjCbVBbVbHeDObTKcCJBQXJHBHBHBHBHBHBHBHbH",
     "YECbjUQgSBbpiTWctOXiZbSbfeAeCbfQKbfAcXuNbKEOciSEBCFIBDBbBEDEJIJcxpVcSbrAC"]⟩,
  ⟨["v50", "5.0"],
    ["wGOlNDmZBbQGQEgKBtXcHoUCBCbhICNCfiJcYEbTwLHbZCbcUEdPCcBBxBMbbMBkQEbgJHFEmENHEbulJEFClAcEbkoM",
     "bAFBirGbhVfPdVNEcogISbqUC"]⟩,
  ⟨["v51", "5.1"],
    ["bhWECCdJBhBBfKQiSFLFbGFlQStDCiOBbJBhYBbDCeEBeEBbACICUIhHBGBbDCMGDHsXCdTBDDcZBFBCBHDEGbAcMECd",
     "bEBbbXbRDMcScEDPDbZmTbCgZEdMGnSBfJBdQBcBEbyABVKDEkEBbFEbfFFEbPDFkUDBDEGnQbGYECTbdKBgGUbppOIb",
     "zOlOUbGCSIbCfBFCeDeGFeYcRJMbMdGLBgEcDJOCKCEbfsUDbhPMcAbUfAbDDbXckDbAFBcxsJBlrQbSEdW"]⟩,
  ⟨["v52", "5.2"],
    ["byQCbcCbUCPhLBcZBGBbJCeYBcfPEhLEhGFcQFdEGtSByGJvOcSgYCbUBcRcLBbDCLGKGOvAbJkGBbaUDfVDcCBxIBba",
     "RCbDDEKBTBBEYdJBbnHFkSBNCeDHmHBboCMbplSIbxKbWqAdKmAKgKbCdWbDDdABLECeYbCEcPYFiQbUCKqoKXEbXnbB",
     "DfgCWBJhECmMbGeYcCDbDCbBFIeYcVuPbFtTcOlvQbpFctnDLFbFCBLBBBCBDBDFIBHBZBBCCBKECBeHBPbIOJcqlJgd",
     "P"]⟩,
  ⟨["v60", "6.0"],
    ["bySCjOBcKBsMbCCBiLCTBGCbBFtMGqRBQBTBwBEcVCbiOCdeNcAIEtOBzOIbCBbfJLbcCBTBBEbDBECbCBbJBBBEDJCc",
     "ADYBOBOCcdKBOBbpODbseNClNCBCOKdCBbdUGCGCGJHBHbemTQhrIdAEbEbheEvXbalBCymGPCOCPBPdCBBLBBBCBDBD",
     "FIBHBKGJBBCCBKECBKcXbABCbVJVCgSbHPGBcSDUMbLBFVRPcLBBBhABEDcKSYfRFBQBDBBBBBBBDBGCEBBCEBMELbWc",
     "ScGeMcuqMiO"]⟩,
  ⟨["v61", "6.1"],
    ["ccTBeMBzRBBLcDbBtDBbmRCsTBFBbVDebBDMGjWIbREecQBBBbyQCbZBFBcEChUKbraEBcnNIbJBjICWBcZCbcOXbdzZ",
     "CfuUcEGCcrOZHKGcBBOcIcVHKbtUcEIKbhkOcRLbVQRbvwIEBbBBCBBCBBKBEBBBBGBEBBBBBBDBCBBCBBBBBBBBBBCB",
     "BCEBHBEBEBBBKBRFDBFBRcACyICblSEhGBQBDBBBBBBBDBGCEBBCEB"]⟩,
  ⟨["v62", "6.2"],
    ["mkGB"]⟩,
  ⟨["v63", "6.3"],
    ["ciEBjyVE"]⟩,
  ⟨["v70", "7.0"],
    ["biLBqIIdPCeOBzRBLGcYBeQBHByPBbZBcYBeXBiUKdkRIvCCpLPvXCjDPbbHDbfQHbdTBbqIDKbACbGCbIDMBIxUHbto",
     "VGjMMLDCCcRBsUbFeVEgUbWECbfiVHbhDCTBmHbCbJBbWbRoZbOIcALBfOlZJWKIjOcLIJrWbGbGbNEMfHSHEMHbvJBi",
     "AbNdIBMBGULSBbReKcHFKHDBICCCWBHBCBFCJCCCDJBFHCHDFkHcUIKgKcCCScCcRLKwKdFMBrGcFdfIbQhUMFBbalFb",
     "FBKECdSbECGKcSKKBHBVFTbemAeDFNDJHKCIqkYhPCQczWBbGWVCuMMJBcSBWMbLBFEFMRHcTBBBhABECcLCEHbDSBbP",
     "BdIcSCNbWcSKQNDEfKdHbRMEcEIKGbOIbE"]⟩,
  ⟨["v80", "8.0"],
    ["dhRCbUBuNBnOBkABcmVBCGevOBhVCdyEEbrwVJcoUBjGBbIGmMCxMEMdCbffQCebGTBCFFhGCCQCbUyQbZNbZHGbvDEO",
     "FgEHBBBEBPBLdIBdBByJUlEbADPEQerPBiWhOlqQwLcawLLchZzCPFBPjhDDdACdBFbKIjVBcXFjJCfJBwDJdZFcHBcu",
     "cLinQ"]⟩,
  ⟨["v90", "9.0"],
    ["dhUIWPbjPBhYBEDBHXDfrZJoGBchBEdxCCbtzLBkSBbhqDCbeVbKEbKfaOBrHdMBBBBtUNccXJBbTBOKbDDbGCWBObfm",
     "VBbFjbPTbdBbgfLHBRCHBCBFdiZcXFKECddBSfMBbfYBbPBlOCbHDvAGBIIBCMBMEPbMN"]⟩,
  ⟨["v100", "10.0"],
    ["deMLpLCjSGtSBcGCfyWBjUEbbHBbfZBczAByCFbcMBbpxNVblpIDiqQcUIcACXBFxHHBCBbSDBBCBJIKbfgPByhKkZdD",
     "pGyaEGbrPCbICtZMTBIIBCZBSNbMGcEXdcpDlbL"]⟩,
  ⟨["v110", "11.0"],
    ["caYBbNBdYBuFDiDBlMBePBpHBeXBenRBboHbRCDfrMDWZEPwPFbcIBbpyHFcyHBICmMCbkvCCSBbaTbOIKrMbOIbQoHB",
     "eODtGBlEBbaXBiVcIxLBbbEGBCBbLBCBGHKlYZbeaPdNjpIFbcjUUeWHjlWcQbsCBceZBiLEoIDbCFCEDBBEYLNKHCbK",
     "ZdSO"]⟩,
  ⟨["v120", "12.0"],
    ["esTBuGBCBCBBGEBHBHCCBNBfkHBfpUBcBBwTBbtzMGCFbjRCbmbGXbrKBxCBbcPICbUCLgDCbzMbYNBhqUJwjKGEBbVJ",
     "dMCjcWGprCDREsaQbTDOCKECoEcGFBcjZBbkNcJbpEBcbGBbKBiVMlDDbVBbXBJBbPGDCKGDICDbWdGbCEEDFDNG"]⟩,
  ⟨["v121", "12.1"],
    ["tiDB"]⟩,
  ⟨["v130", "13.0"],
    ["diCKzDBqOBeUBfaJCgjUBbaUDbhOFkpIKbfdGNcySEbQCcBBbfVEbgqQBewXbQBDCCjUbCoPBfECzABFCbtMHCBCIBCB",
     "bEBCCMJKckKBbejRBLCkfXsPbQJblwUDdPDcJBbyUCbJCqTCdMBdXBECbQCGDbDBgMBOEPTHHJDNHbPfRBcDbLKcmsJH",
     "bhtQhhZ"]⟩,
  ⟨["v140", "14.0"],
    ["ciFBwWbFBCGIVBSLbhPBbGBeXBdwHBHBJBjFBbaNOeVBbWCyLBbbHBeiOBbVBtFLbraTDcyICOCBBBFYDbftDBoRQeXB",
     "bUCcvGLBPBHBCBLBPBHBCrJGBbQBJcxXbAiWGcYBcgSBfEHbhPQhwYdVwdXdBBKbaeWEBHBClCEliBbUCXJeMvDCeyVb",
     "FbhXbFbzDHBEBCBPfqKDkMBpCBdEBgSCbSEKEIDRDGIIHcncPCgeVE"]⟩,
  ⟨["v150", "15.0"],
    ["exNBsGBdtaKDbfZDdiCKbnARBbPDbChxDBJbDbvhKBbIBmrAUerHGkBcKbHBbpWbQguCBfVDEFdLBzRDPCbKDLDBBOCK",
     "CMBOCcthOBbiwSgfG"]⟩,
  ⟨["v151", "15.1"],
    ["seMEtBBkeiQxY"]⟩,
  ⟨["v160", "16.0"],
    ["dgPBhcGCbVBkFCcwYDffECbsqVDMDbjoLcActWbMDbDIClUDcDBbsLKBBCBBbMBKBBCBBEBKBCICbcVUbvWbIOKbhGBh",
     "yZfxRkzTcGeoKcGlyJBxwIjQGqUitObREBhcCKECrNBFBbUBHBVBCBJBiRbL"]⟩]

end ApiContract.Unicode
