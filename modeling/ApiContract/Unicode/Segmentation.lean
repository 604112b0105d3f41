import ApiContract.Unicode.CodePointSet

/-!
Classes of characters at the boundaries of user-perceived characters, words and sentences. The
characters in no class of a list are those named `other`, which no list holds.
-/

namespace ApiContract.Unicode

/-- Classes at the boundaries of user-perceived characters. -/
def graphemeBreaks : List NamedSet := [
  ⟨["cr"],
    ["NB"]⟩,
  ⟨["cn", "control"],
    ["AKBCBSdRbHNBcbMBguRBdaQBCCYHbXQdghJBjGMtuAQbzqUEhwXIbtkzLbGdSeYjGfiM"]⟩,
  ⟨["ex", "extend"],
    ["bdOeIkPHkDbTBBBCBCBBcULbWVQBdXHCGCCBEbJBbEbBdNLcGJJBYEBJBDBFbRDcHJbQYBbGcDBBBEIEBDHKCbDBcGBB",
     "BCEIBJBKCbABCCcFBECECCDDBbECDBLCcFBEFBCEBUCWGBBcGBBCBEIBHDKCbEBcHBBBMBJBbOBDBcDBBDFDBEHCLCbD",
     "BcGBCCBBDDBEHCLCbCCcFCBBCEIBJBKCbDBcUBEBCDBBIBdDBCHMIdUBCJLHcVCbBBBBBBcDOBFBCFLBbKJBdYEBGBCC",
     "CZCEDQENBCCGBPBbbBDbkKEbCDbDCbECcMCBHIBCLJBbTDBBeNCbIBeODECJBGDiLCCBcGBBHBBBBCIGKCBbWbFbXEbW",
     "KEDbMJMCbGECGcEBBCDBBFcEICCfWDBNBHEBGBDChQcMuEBhNbHeoCDfLBdSbGvIGeBCbsqEEBKbGCdCCkMBDBEBZCFB",
     "fVCbASNBbMIZLBBbSDbWBCECCCBbKBcPGCCCCMBIBbVBbZBBDCCFCBBbQCIBjEBCBEBbdzSBbcJQQQoCCxHBiSBfTFcm",
     "GDBCFEbODEBgJCwBEcNFmFCdBEcSLbXEeTBcCPbPBCCKDbXECCHBcJDbKFBIcKBMCcAJBBIECBdRDCEGBCBgBBDIVCcF",
     "CBBBBMBJBOHDFcPBCGBBCBBDEDBBOCdHICDBBXBdDBCGBBCBBCBCjBBCEGCBCbBCdHICBBCeCBBBCIdXBBBCEBFjZJBC",
     "jLBKEEBfOECCEBbGKbOGCEIBJGCDbUNBCpQHBGBBdEWCHBCBCeSGDBBCBHBBcUCDBBBnJCLCcAFFDXBhxTBGPqyYMDDd",
     "sAFcHHboIBcLEdDBLCbdaXCgyZbUCXuWFDGIICHbEEfSDcyDcDEbYIBOBWFBPcaIHBRCHBCBFdWBgEHoLBcJEtOEjUCb",
     "cIHeFHebGFbsxyUdSeYjG"]⟩,
  ⟨["l"],
    ["glKdScfoQbD"]⟩,
  ⟨["lf"],
    ["KB"]⟩,
  ⟨["lv"],
    ["cndOBbBBbBBbBBbBBbBBbBBbBBbBBbBBbBBbBBbBBbBBbBBbBBbBBbBBbBBbBBbBBbBBbBBbBBbBBbBBbBBbBBbBBbBB",
     "bBBbBBbBBbBBbBBbBBbBBbBBbBBbBBbBBbBBbBBbBBbBBbBBbBBbBBbBBbBBbBBbBBbBBbBBbBBbBBbBBbBBbBBbBBbB",
     "BbBBbBBbBBbBBbBBbBBbBBbBBbBBbBBbBBbBBbBBbBBbBBbBBbBBbBBbBBbBBbBBbBBbBBbBBbBBbBBbBBbBBbBBbBBb",
     "BBbBBbBBbBBbBBbBBbBBbBBbBBbBBbBBbBBbBBbBBbBBbBBbBBbBBbBBbBBbBBbBBbBBbBBbBBbBBbBBbBBbBBbBBbBB",
     "bBBbBBbBBbBBbBBbBBbBBbBBbBBbBBbBBbBBbBBbBBbBBbBBbBBbBBbBBbBBbBBbBBbBBbBBbBBbBBbBBbBBbBBbBBbB",
     "BbBBbBBbBBbBBbBBbBBbBBbBBbBBbBBbBBbBBbBBbBBbBBbBBbBBbBBbBBbBBbBBbBBbBBbBBbBBbBBbBBbBBbBBbBBb",
     "BBbBBbBBbBBbBBbBBbBBbBBbBBbBBbBBbBBbBBbBBbBBbBBbBBbBBbBBbBBbBBbBBbBBbBBbBBbBBbBBbBBbBBbBBbBB",
     "bBBbBBbBBbBBbBBbBBbBBbBBbBBbBBbBBbBBbBBbBBbBBbBBbBBbBBbBBbBBbBBbBBbBBbBBbBBbBBbBBbBBbBBbBBbB",
     "BbBBbBBbBBbBBbBBbBBbBBbBBbBBbBBbBBbBBbBBbBBbBBbBBbBBbBBbBBbBBbBBbBBbBBbBBbBBbBBbBBbBBbBBbBBb",
     "BBbBBbBBbBBbBBbBBbBBbBBbBBbBBbBBbBBbBBbBBbBBbBBbBBbBBbBBbBBbBBbBBbBBbBBbBBbBBbBBbBBbBBbBBbBB",
     "bBBbBBbBBbBBbBBbBBbBBbBBbBBbBBbBBbBBbBBbBBbBBbBBbBBbBBbBBbBBbBBbBBbBBbBBbBBbBBbBBbBBbBBbBBbB",
     "BbBBbBBbBBbBBbBBbBBbBBbBBbBBbBBbBBbBBbBBbBBbBBbBBbBBbBBbBBbBBbBBbBBbBBbBBbBBbBBbBBbBBbBBbBBb",
     "BBbBBbBBbBBbBBbBBbBBbBBbBBbBBbBBbBBbBBbBBbBBbBBbBBbBBbBBbBBbBBbBBbBBbBBbBBbBBbBBbBBbBBbBBbBB",
     "bBB"]⟩,
  ⟨["lvt"],
    ["cndPbBBbBBbBBbBBbBBbBBbBBbBBbBBbBBbBBbBBbBBbBBbBBbBBbBBbBBbBBbBBbBBbBBbBBbBBbBBbBBbBBbBBbBBb",
     "BBbBBbBBbBBbBBbBBbBBbBBbBBbBBbBBbBBbBBbBBbBBbBBbBBbBBbBBbBBbBBbBBbBBbBBbBBbBBbBBbBBbBBbBBbBB",
     "bBBbBBbBBbBBbBBbBBbBBbBBbBBbBBbBBbBBbBBbBBbBBbBBbBBbBBbBBbBBbBBbBBbBBbBBbBBbBBbBBbBBbBBbBBbB",
     "BbBBbBBbBBbBBbBBbBBbBBbBBbBBbBBbBBbBBbBBbBBbBBbBBbBBbBBbBBbBBbBBbBBbBBbBBbBBbBBbBBbBBbBBbBBb",
     "BBbBBbBBbBBbBBbBBbBBbBBbBBbBBbBBbBBbBBbBBbBBbBBbBBbBBbBBbBBbBBbBBbBBbBBbBBbBBbBBbBBbBBbBBbBB",
     "bBBbBBbBBbBBbBBbBBbBBbBBbBBbBBbBBbBBbBBbBBbBBbBBbBBbBBbBBbBBbBBbBBbBBbBBbBBbBBbBBbBBbBBbBBbB",
     "BbBBbBBbBBbBBbBBbBBbBBbBBbBBbBBbBBbBBbBBbBBbBBbBBbBBbBBbBBbBBbBBbBBbBBbBBbBBbBBbBBbBBbBBbBBb",
     "BBbBBbBBbBBbBBbBBbBBbBBbBBbBBbBBbBBbBBbBBbBBbBBbBBbBBbBBbBBbBBbBBbBBbBBbBBbBBbBBbBBbBBbBBbBB",
     "bBBbBBbBBbBBbBBbBBbBBbBBbBBbBBbBBbBBbBBbBBbBBbBBbBBbBBbBBbBBbBBbBBbBBbBBbBBbBBbBBbBBbBBbBBbB",
     "BbBBbBBbBBbBBbBBbBBbBBbBBbBBbBBbBBbBBbBBbBBbBBbBBbBBbBBbBBbBBbBBbBBbBBbBBbBBbBBbBBbBBbBBbBBb",
     "BBbBBbBBbBBbBBbBBbBBbBBbBBbBBbBBbBBbBBbBBbBBbBBbBBbBBbBBbBBbBBbBBbBBbBBbBBbBBbBBbBBbBBbBBbBB",
     "bBBbBBbBBbBBbBBbBBbBBbBBbBBbBBbBBbBBbBBbBBbBBbBBbBBbBBbBBbBBbBBbBBbBBbBBbBBbBBbBBbBBbBBbBBbB",
     "BbBBbBBbBBbBBbBBbBBbBBbBBbBBbBBbBBbBBbBBbBBbBBbBBbBBbBBbBBbBBbBBbBBbBBbBBbBBbBBbBBbBBbBBbBBb",
     "BBbB"]⟩,
  ⟨["pp", "prepend"],
    ["chCGiHBbXBoUCdCBbrNBdugKBPBjKCuFBcbLBBBjOBcVGbaYBrBB"]⟩,
  ⟨["ri", "regionalindicator"],
    ["hgoKbA"]⟩,
  ⟨["sm", "spacingmark"],
    ["dkTBcDBCDIEBCbYCcHCGCCCcCBcGDcOBcGDIBBCcBCcIBGCCCeKBBCDDBDcADcJEcJCcGBCBBCbUBOCcHCFDBDcBCcYC",
     "GHTCcLBeXBfICcLBgVBJCZCbSBcsVBHIBCnIECDECBGiQCcGBBBVGfPBcFEcMBbEBECcLBCDBBcBIICgPBVBcasHCCBd",
     "KCbYQfMBbWBbWCECCCeHCCCYBgBBCCFBjDCBCBCBBblxJBBBeXBbTDECeLBYCcHBbWDJBOBdPDDCgQDbFCcHBBECCCCV",
     "CdHCPBBCdZDICDBeDCGBBCBBCBjECGECBeJDICBBeFBBCeGBHBkBDJBjOFBCHBBBfMDIEEBdGBbDCcKBpRBOBeCBHBCB",
     "iFFECBBnMCMBbWCICyzADfjGcD"]⟩,
  ⟨["t"],
    ["grWdKcwxNbX"]⟩,
  ⟨["v"],
    ["gpCcUcwzWXcerCBDE"]⟩,
  ⟨["zwj"],
    ["mdPB"]⟩]

/-- Classes at word boundaries. -/
def wordBreaks : List NamedSet := [
  ⟨["le", "aletter"],
    ["cNbAGbAbVBKBEBFXBbFBsMGbIeIFBCCEBBGBBDBBBUBdFBfJIgKBbMCEBBBbPBBeABbSbRbJCBdVBBPCHCKDCBQBBbEb",
     "DdLLBYbHJCEBFWEBJBDBXZHLFYBGRbQcGcCDBSBHKPQEICCCWBHBBDEDBQBNCBDOCKBIGECCWBHBCBCBCbFEBBTDQJBD",
     "BWBHBCBFDBSBPCXBLICCCWBHBCBFDBbECBDPBRBBGDDBEDCBBBCDCDDDMWBcAIBDBXBQDBbADCBCCbEBEIBDBXBKBFDB",
     "bFCBCPCRJBDBbPCBQBFDIDYGFSDYBJBBCHmBBcLIBbKbBFkPbMBBFBCbRBmVBECHBBBECbPBECbHBECHBBBECPBcFBEC",
     "cPbLQQdICGDxWCRBbAFcXDLHSNTOSONBDgTdLHFCbIBBFcSKbFiRXjEbVRIcCbENCKbSbAbKbPDKbKCLFbRCDbPEBGBC",
     "DBFhKcMkSCGCbMCGCIBBBBBBBbFCcBBHBBDDBHDECGENFDBHeMBNBQNdXBEBCKBBDFGBBBBBBEBLCEFFEBRbPbfHcAcr",
     "UiVGEDCMbMBBFBCcEHBQXJHBHBHBHBHBHBHBHdCBsBBcBChSbRBdQRbGbptObsVcPbUCkJDQKCUbVQbFCdCYhQCCBBBI",
     "VQBDBEBXbDcAObYcKGDBBCLbCKXZbDHbVbCBbWbPXDBIfSLHDMGCGCGJHBHBcGGeLbDqnSMXEbXngUHMFcEdUbHnZScM",
     "CcCbOMeMFBfFbKbAGbAcRbFDGCGCGCDbJMBbABTBCBPCObIeTcRcBkHbDDbXbVbGNbEFbMKbECbKEIBFbQgCSbKEbKEb",
     "OIcAMLBPBHBCBLBPBHBCDcAMlZJWKIYGBbQBJcRGCBBbSBCDBCXKXJbFcNTBCKWKbAcScEGCcMBPEBDBbDbQbDDbDbJI",
     "BbCbBcCKWKTNSeGcVcDbZNbZNbKbMbCJXjQbQGCQDcHbDKBIWbQSbUVbBXMcBcFCCBNbTbGZbAbKbDBCBIbJDBMbWOEV",
     "BBBbJSBZTCcLHBBBEBPBKHbVbMICCCWBHBCBFDBSBMFbEKBBCBBbMBBZBBBbScBSEUDbEbWUCBBhCbVbPEbKbWUBcHbR",
     "NBmPbSeMcMbFICBCIBCBYPBBBdQICbNQBBBbCBKbOHBVBLbUTBScVhRbHbFJBbLRBbXbEeIHBCBbMVBZGBCBbGOBmPTP",
     "BBNBbIeUBdBbjMdYeHRhOdxKdTPbpGRGZfxRFwLkdDbEcpUvXHbFRdBRbESbWQEbFVFTqQbTiDcMeYcXFBcONcMCBBbc",
     "vKeDFNDJHKiwKdHBcTBCCBCCCEBMBBBHBcNBECIBHBbCBEBFBBDHBnCCZBZBbFBZBbFBZBbFBZBbFBZBIcsYbFGGkBcK",
     "fQbTKHQBmJbESbSsQbCiUbECBtBHBEBCBPBhPcHcQHBbuIEBbBBCBBCBBKBEBBBBGBEBBBBBBDBCBBCBBBBBBBBBBCBB",
     "CEBHBEBEBBBKBRFDBFBRyEbAGbAGbA"]⟩,
  ⟨["cr"],
    ["NB"]⟩,
  ⟨["dq", "doublequote"],
    ["bIB"]⟩,
  ⟨["extend"],
    ["bdOeIkPHkDbTBBBCBCBBcULbWVQBdXHCGCCBEbJBbEbBdNLcGJJBYEBJBDBFbRDcHJbQYBbHcCDBSBHKCbDDcEBBHCCC",
     "DJBKCbABCDcEBBFECCDDBbECDBLDcEBBIBDBDUCWGBDcEBBHCCCDHDKCbEBcHFDDBEJBbOFcDBBHBDBEHCLCbDDcEBBH",
     "BDBEHCLCPBMEcDCBHBDBEJBKCbDDcSBEGBBBISCcJBCHMIdUBCJLHcVCbBBBBBBECbXUBCFLBbKJBdWUXEEDBDCHDENM",
     "BBKEbbBDbkKEbCDbDCbECcMbGJBbTDBBeNCbIBeOMEMiLFcFKBbDCBbWbFbXFbVRbMJMDbENcEObWUfWDBVEBGBCDhQc",
     "MuEBhNbHeoCDfLBdSbGvIGeBCbsqEEBKbGCdCCkMBDBEBXFEBdFCbYSbASNBbMIZNbSEbVObKBcPOMBICbTDbYBBDCCF",
     "CBBbPFFCjCIBCbdzSBbcJQQQoCCxHBiSBfTFcmGDBCFEbODEBgJCwBEcNFmFCdBEcSLbXEeSDcBPbPBCCKEbTLHBcJDb",
     "KOQCbSBMDbWOIEBCdOMGBCBgBMVEcDCBHCCCDJBKCCHDFcPJBBCBBEBFBBOCdESXBdDUjBHCJbBCdEReCNdXPjWPjLGB",
     "CCEBBBCfLHCHDBbCKbOHBEIBJLbUQpPIBIdEWBOeSGDBBCBHBBcOFBCBFnJEJCBBbWHDFXBhxTBGPqyYSdsAFcHHboIB",
     "BcDHEdDBLCbdaXCgyZbUCXuWFDGIICHbEEfSDcyDcDEbYIBOBWFBPcaIHBRCHBCBFdWBgEHoLBcJEtOEjUCbcIHeFHeb",
     "GFbsxyUdSeYjG"]⟩,
  ⟨["ex", "extendnumlet"],
    ["dRBmbFBPCTBdgaOCYDjFB"]⟩,
  ⟨["fo", "format"],
    ["gRBcaKGWBhKBbXBoUCdCBftJBdaTCbAFbXFBKdghJBjPDgiZBPBnkKQbzqUEhwXIbtkzMB"]⟩,
  ⟨["hl", "hebrewletter"],
    ["cfGbBEEdovYBBKBNBFBBBCBCBK"]⟩,
  ⟨["ka", "katakana"],
    ["sgNFdXCDdNBEjGQiAbVBdKczhEcEcouCEBHBCBBlBDbYBOE"]⟩,
  ⟨["lf"],
    ["KB"]⟩,
  ⟨["ml", "midletter"],
    ["cGBeUBbbRBsDBfSBjxYBdgbBBcNBhOB"]⟩,
  ⟨["mn", "midnum"],
    ["bSBOBbgCBuCBfACdQBpFBjfFBdfzVBDBcHBDBhBBOB"]⟩,
  ⟨["mb", "midnumlet"],
    ["bUBmcFCKBdgdPBgYBGB"]⟩,
  ⟨["nl", "newline"],
    ["LCeQBlzMC"]⟩,
  ⟨["nu", "numeric"],
    ["bWKciOKBBfCKhQKpWKeOKeOKeOKeOKeOKeOKeOKeOKeOKdSKeOKcSKkSKcSKctQKbMKlOKeYKgKKGKhAKdIKfEKGKcae",
     "OKbaCKbMKhQKWKdIKpQKbfmCKccKKdfYKGKbeQKeYKcIKfOKkSKnEKeOKoKKdYKGUcYKqGKdYKzMKdIKjMKcSKqGKyyG",
     "KdmCKdIKfEKuOKbkdYKecQbYdnCKqGKtIKjNKbgVKhbAK"]⟩,
  ⟨["ri", "regionalindicator"],
    ["hgoKbA"]⟩,
  ⟨["sq", "singlequote"],
    ["bNB"]⟩,
  ⟨["wsegspace"],
    ["bGBimHBdpNHBDdGBfxWB"]⟩,
  ⟨["zwj"],
    ["mdPB"]⟩]

/-- Classes at sentence boundaries. -/
def sentenceBreaks : List NamedSet := [
  ⟨["at", "aterm"],
    ["bUBmcRBdgdPBhFB"]⟩,
  ⟨["cr"],
    ["NB"]⟩,
  ⟨["cl", "close"],
    ["bIBEDbXBBBbDBBBbTBPBfmSEcuNCdpJIZCKCcCCOCyJEbDCbpGGHOdBCbFKpNWcLEbGCbnMOOCCKYBSIqLKCIBDczrQC",
     "iHCbCQCCQGgNCbXBBBbDBBBBCBCdpoSD"]⟩,
  ⟨["ex", "extend"],
    ["bdOeIkPHkDbTBBBCBCBBcULbWVQBdXHCGCCBEbJBbEbBdNLcGJJBYEBJBDBFbRDcHJbQYBbHcCDBSBHKCbDDcEBBHCCC",
     "DJBKCbABCDcEBBFECCDDBbECDBLDcEBBIBDBDUCWGBDcEBBHCCCDHDKCbEBcHFDDBEJBbOFcDBBHBDBEHCLCbDDcEBBH",
     "BDBEHCLCPBMEcDCBHBDBEJBKCbDDcSBEGBBBISCcJBCHMIdUBCJLHcVCbBBBBBBECbXUBCFLBbKJBdWUXEEDBDCHDENM",
     "BBKEbbBDbkKEbCDbDCbECcMbGJBbTDBBeNCbIBeOMEMiLFcFKBbDCBbWbFbXFbVRbMJMDbENcEObWUfWDBVEBGBCDhQc",
     "MuEChMbHeoCDfLBdSbGvIGeBCbsqEEBKbGCdCCkMBDBEBXFEBdFCbYSbASNBbMIZNbSEbVObKBcPOMBICbTDbYBBDCCF",
     "CBBbPFFCjCIBCbdzSBbcJQQQoCCxHBiSBfTFcmGDBCFEbODEBgJCwBEcNFmFCdBEcSLbXEeSDcBPbPBCCKEbTLHBcJDb",
     "KOQCbSBMDbWOIEBCdOMGBCBgBMVEcDCBHCCCDJBKCCHDFcPJBBCBBEBFBBOCdESXBdDUjBHCJbBCdEReCNdXPjWPjLGB",
     "CCEBBBCfLHCHDBbCKbOHBEIBJLbUQpPIBIdEWBOeSGDBBCBHBBcOFBCBFnJEJCBBbWHDFXBhxTBGPqyYSdsAFcHHboIB",
     "BcDHEdDBLCbdaXCgyZbUCXuWFDGIICHbEEfSDcyDcDEbYIBOBWFBPcaIHBRCHBCBFdWBgEHoLBcJEtOEjUCbcIHeFHbt",
     "caFdSeYjG"]⟩,
  ⟨["fo", "format"],
    ["gRBcaKGWBhKBbXBoUCdCBftJBdaQBCCbAFbXFBKdghJBjPDgiZBPBnkKQbzqUEhwXIbtkzMB"]⟩,
  ⟨["lf"],
    ["KB"]⟩,
  ⟨["lo", "lower"],
    ["dTbAbVBKBEBbKYBIBBBBBBBBBBBBBBBBBBBBBBBBBBBBBBBBBBBBBBBBBBBBBBBBBBBBBBBCBBBBBBBBBBBBBBBCBBBB",
     "BBBBBBBBBBBBBBBBBBBBBBBBBBBBBBBBBBBBBBBBBBCBBBBDCBBBCBDCEBCBDDCBCBBBBBCBBCBBCBDBBBCCCDGBCBCB",
     "BBBBBBBBBBBBBBBCBBBBBBBBBBBBBBBBBCCBBBDBBBBBBBBBBBBBBBBBBBBBBBBBBBBBBBBBBBBBBBBBBBBBBBBBBBBB",
     "BBBBBHCBCCBBEBBBBBBBBcRBbKHCbEFfKBBBDBCESBbBbJBCDDBBBBBBBBBBBBBBBBBBBBBBBFBBCBCCbZbWBBBBBBBB",
     "BBBBBBBBBBBBBBBBBBBBBBBBBBJBBBBBBBBBBBBBBBBBBBBBBBBBBBBBBBBBBBBBBBBBBBBBBBBBBBBBCBBBBBBBBBBB",
     "BCBBBBBBBBBBBBBBBBBBBBBBBBBBBBBBBBBBBBBBBBBBBBBBBBBBBBBBBBBBBBBBBBBBBBBBBBBBBBBBBBBBBBBBBBBB",
     "BBBBBBbWbPeiTBbdJGdfUJBBeNhKcNBBBBBBBBBBBBBBBBBBBBBBBBBBBBBBBBBBBBBBBBBBBBBBBBBBBBBBBBBBBBBB",
     "BBBBBBBBBBBBBBBBBBBBBBBBBBBBBBBBBBBBBBBBBBBBBBBBBBBBBBBBBBBBBBBBBBBBBBBBBBBBBBBBBBBBBBJBBBBB",
     "BBBBBBBBBBBBBBBBBBBBBBBBBBBBBBBBBBBBBBBBBBBBBBBBBBBBBBBBBBBBBBBBBBBBBBBBBBBBBBBBBBBBBBBBBBBB",
     "JIGKIIIIGKIIIIOCIIIIIIFBCGBDDBCIECCIIKDBCeRBNBQNeFBDCDBbBBEBEBCCIEEBbHQEBbgLbActQbWBBDCBBBBB",
     "BEBBCBIDBBBBBBBBBBBBBBBBBBBBBBBBBBBBBBBBBBBBBBBBBBBBBBBBBBBBBBBBBBBBBBBBBBBBBBBBBBBBBBBBBBBB",
     "BBBBBBBBBBBBBBCHBBBEBMbMBBFBbtwDBBBBBBBBBBBBBBBBBBBBBBBBBBBBBBBBBBBBBBBBBBBBBTBBBBBBBBBBBBBB",
     "BBBBBBBBBBBBDfDBBBBBBBBBBBBDBBBBBBBBBBBBBBBBBBBBBBBBBBBBBBBBBBBBBBBBBBBBBBBBBBBBBBBBBBBBBKBB",
     "BBCBBBBBBBBBEBBBCBBDBBBBBBBBBBBBBBBBBBBBFBFBBBBBBBBBBBBBBBEBBBCBDBBBBBBBBBBBWDBBBDbfPbRBOGdC",
     "beaIHMFboZbAbvHbOfGbKfZLBPBHBCrJBCDBbQBJbxLbZeVWegObGbgjWbGbmmKbAbAHBSbAbAbAEBBBHBLbAbAbAbAb",
     "AbAbAbAbAbAbAbAbAbAbAbAbAbCbCZBGbAZBGbAZBGbAZBGbAZBGBBcsYKBUGGkBcKdhSbI"]⟩,
  ⟨["nu", "numeric"],
    ["bWKciOKBCfBKhQKpWKeOKeOKeOKeOKeOKeOKeOKeOKeOKdSKeOKcSKkSKcSKctQKbMKlOKeYKgKKGKhAKdIKfEKGKcae",
     "OKbaCKbMKhQKWKdIKpQKbfmCKccKKdfYKGKbeQKeYKcIKfOKkSKnEKeOKoKKdYKGUcYKqGKdYKzMKdIKjMKcSKqGKyyG",
     "KdmCKdIKfEKuOKbkdYKecQbYdnCKqGKtIKjNKbgVKhbAK"]⟩,
  ⟨["le", "oletter"],
    ["rBBEEiABbKHGMbABBBfDBsQBeObBEFbSbRbJCBdVBBPCHCKDCBQBBbEbDdLLBYbHJCEBFWEBJBDBXZHLFYBGRbQcGcCD",
     "BSBHKPQEICCCWBHBBDEDBQBNCBDOCKBIGECCWBHBCBCBCbFEBBTDQJBDBWBHBCBFDBSBPCXBLICCCWBHBCBFDBbECBDP",
     "BRBBGDDBEDCBBBCDCDDDMWBcAIBDBXBQDBbADCBCCbEBEIBDBXBKBFDBbFCBCPCRJBDBbPCBQBFDIDYGFSDYBJBBCHcG",
     "bWBCMHcGCBBBFBYBBBKBCJBCFBBVEbGBcLIBbKbBFeLbRUBQGEEDBDCHDENMBcNbRCmUBECHBBBECbPBECbHBECHBBBE",
     "CPBcFBECcPbLQeJxWCRBbAFcXDLHSNTOSONBDPcAbJBEBcPdLHFCbIBBFcSKbFbXbECFLbSEbAcCXJcBdEBdPbVRIcCb",
     "ENCKbSbAbKbPDKbKSbRCDbPEBGBCDBbpQEcTDCEekTcEHBQXJHBHBHBHBHBHBHBHdCBsBDZJHFCFEdIGDBdMBEFbRBdQ",
     "RbGbWQtSjtOcMbguFcPbUCkJDQKCcOBQBbGdCbNJeABGBdZBDHBDBEBXbDcAObYcKGDBBCLbCKXZbDHbVbCBQFBKKFBb",
     "PXDBIUXDBDbYBBDCCFCBBBYDCLHDMGCGCGJHBHfPbJbDqnSMXEbXmnCoCCeCcPBBKBNBFBBBCBCBeEbHnZScMCcCbOMe",
     "MFBfFeBcECbFDGCGCGCDbJMBbABTBCBPCObIeTcRcBkHbDDbXbVbGNbEFbMKbECbKEIBFeSdAdUbOIcAdOcAMlZJWKIZ",
     "CeVGCBBbSBCDBCXKXJbFcNTBCKWKbAcScEGCcMBPEBDBbDbQbDDbDbJIBbCbBcCKWKTNSeGcVhBbKbMGbFBkMbQGCQDc",
     "HbDKBIWbQSbUVbBXMcBcFCCBNbTbGZbAbKbDBCBIbJDBMbWOEVBBBbJSBZTCcLHBBBEBPBKHbVbMICCCWBHBCBFDBSBM",
     "FbEKBBCBBbMBBZBBBbScBSEUDbEbWUCBBhCbVbPEbKbWUBcHbRNBcTbBbLHhDbSiDICBCIBCBYPBBBdQICbNQBBBbCBK",
     "bOHBVBLbUTBScVhRbHbFJBbLRBbXbEeIHBCBbMVBZGBCBbGOBmPTPBBNBbIeUBdBbjMdYeHRhOdxKdTPbpGRGZfxRFwL",
     "kdDbEcpUvXHbFRdBRbESbWQEbFVFTqQbTpNcXFBcONcMCBBbCjcAIbvQbPKnfREBHBCBlFPBbDDCBOEIpGdkUeDFNDJH",
     "KnbCBtHbTKHQBmJbESbSsQbCiUbECBtBHBEBCBPBhPfEBbuIEBbBBCBBCBBKBEBBBBGBEBBBBBBDBCBBCBBBBBBBBBBC",
     "BBCEBHBEBEBBBKBRFDBFBRgoAclfCbGgdUGiOCinQOlbLPxYdqWuWcfYhhZFgfG"]⟩,
  ⟨["sc", "scontinue"],
    ["bSCMBbyOBgSCsWBgbXBFBdbECgaUBdaaWCBBbDCbDCDBCBKBgMCMBcVB"]⟩,
  ⟨["st", "sterm"],
    ["bHBbDBcaBBfRDgYBbRDjMBcJBBBDClHCcpWCbeKBECbdTBhQCgBCbTBFBmCCnQEgGCKCCCbDDhFCcNCbkUCJDeuXDlUB",
     "NBWCqNBbshWBkKCiTBDBoSCdICdRBfWCfRDfOCjPBbfcWBCCcLCgNBbDBcNBedWCbxDFbSEhHCeNEeXDeZCGBQCdKCBC",
     "eEBlMCeNCoJCFPeBCjPDtXBBBjRCdJCqECbaQCcWCbcmBCfDBcNCLBvHClKBbdoGBliMB"]⟩,
  ⟨["se", "sep"],
    ["fDBlzMC"]⟩,
  ⟨["sp"],
    ["JBBCTBeXBihJBdpNLbKBbVBfxWB"]⟩,
  ⟨["up", "upper"],
    ["cNbAdXXBHbHBBBBBBBBBBBBBBBBBBBBBBBBBBBBBBBBBBBBBBBBBBBBBBBBBBBBBBBCBBBBBBBBBBBBBBBCBBBBBBBBB",
     "BBBBBBBBBBBBBBBBBBBBBBBBBBBBBBBBBBBBBCBBBBDCBBBCBDCEBCBDDCBCBBBBBCBBCBBCBDBBBCDBHCBCBCBBBBBB",
     "BBBBBBBBBBCBBBBBBBBBBBBBBBBBCCBBBDBBBBBBBBBBBBBBBBBBBBBBBBBBBBBBBBBBBBBBBBBBBBBBBBBBBBBBBBBB",
     "HCBCCBBEBBBBBBBBlDBBBDBIBGBBDBBBCBRBJbJBCDDBBBBBBBBBBBBBBBBBBBBBBBFBCBBCCbZbWBBBBBBBBBBBBBBB",
     "BBBBBBBBBBBBBBBBBBJBBBBBBBBBBBBBBBBBBBBBBBBBBBBBBBBBBBBBBBBBBBBBBBBBBBBBBCBBBBBBBBBBBBCBBBBB",
     "BBBBBBBBBBBBBBBBBBBBBBBBBBBBBBBBBBBBBBBBBBBBBBBBBBBBBBBBBBBBBBBBBBBBBBBBBBBBBBBBBBBBBBBBBBCb",
     "MehDbMBBFBbbUdIdgLBoKBBBBBBBBBBBBBBBBBBBBBBBBBBBBBBBBBBBBBBBBBBBBBBBBBBBBBBBBBBBBBBBBBBBBBBB",
     "BBBBBBBBBBBBBBBBBBBBBBBBBBBBBBBBBBBBBBBBBBBBBBBBBBBBBBBBBBBBBBBBBBBBBBBBBBBBBBJBBBBBBBBBBBBB",
     "BBBBBBBBBBBBBBBBBBBBBBBBBBBBBBBBBBBBBBBBBBBBBBBBBBBBBBBBBBBBBBBBBBBBBBBBBBBBBBBBBBBBJIIGKIII",
     "IGLBBBBBBBIIYIIIIIIFLFLEMFLFkBBEBDDCDCBDFGBBBBBBECEKCFBbAQTBbfMbAcsUbWbWBBDCBBBBBBEBBCBIDBBB",
     "BBBBBBBBBBBBBBBBBBBBBBBBBBBBBBBBBBBBBBBBBBBBBBBBBBBBBBBBBBBBBBBBBBBBBBBBBBBBBBBBBBBBBBBBBBBB",
     "BBBIBBBEBbtyJBBBBBBBBBBBBBBBBBBBBBBBBBBBBBBBBBBBBBBBBBBBBBTBBBBBBBBBBBBBBBBBBBBBBBBBBBfFBBBB",
     "BBBBBBBBBDBBBBBBBBBBBBBBBBBBBBBBBBBBBBBBBBBBBBBBBBBBBBBBBBBBBBBBBBBBBBBKBBBBCBBBBBBBBEBBBCBB",
     "BDBBBBBBBBBBBBBBBBBBBBFBFBBBBBBBBBBBBBBBEBBBCDBFBBBBBBBYBbhaHbAbuZbOfGbKgALBPBHBCcqCbZgBWegO",
     "bGbgjWbGbmmQbAbAbAbAbAbABBCCBCCCEBIbAbAbACBECIBHbBCBEBFBBDHbBbAbAbAbAbAbAbAbAbAbAbAbEZbHZbHZ",
     "bHZbHZbHBgnLbIdbIbAGbAGbA"]⟩]

end ApiContract.Unicode
