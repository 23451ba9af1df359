/-!
# Names of characters: H to K

The names that begin with the letters H to K, in order.  A small letter stands in front of
each name and says how many words the name shares with the one before, `a` for none; only the other
words are given.
-/

namespace Jet.Text.CharacterName

/-- The names that begin with the letters H to K. -/
def namesHtoK : List String :=
  ["aHADESaHAIR SPACEaHAIRCUTaHALFWIDTH BLACK SQUAREbDOWNWARDS ARROWbFORMS LIGHT VERTICAL",
    "bHANGUL FILLERcLETTER AdAEdCHIEUCHdCIEUCdEdEOdEUdHIEUHdIdIEUNGdKHIEUKHdKIYEOKdKIYEOK-SIOS",
    "dMIEUMdNIEUNdNIEUN-CIEUCdNIEUN-HIEUHdOdOEdPHIEUPHdPIEUPdPIEUP-SIOSdRIEULdRIEUL-HIEUH",
    "dRIEUL-KIYEOKdRIEUL-MIEUMdRIEUL-PHIEUPHdRIEUL-PIEUPdRIEUL-SIOSdRIEUL-THIEUTHdSIOSdSSANGCIEUC",
    "dSSANGKIYEOKdSSANGPIEUPdSSANGSIOSdSSANGTIKEUTdTHIEUTHdTIKEUTdUdWAdWAEdWEdWEOdWIdYAdYAEdYE",
    "dYEOdYIdYOdYUbIDEOGRAPHIC COMMAcFULL STOPbKATAKANA LETTER AdEdHAdHEdHIdHOdHUdIdKAdKEdKIdKO",
    "dKUdMAdMEdMIdMOdMUdNdNAdNEdNIdNOdNUdOdRAdREdRIdROdRUdSAdSEdSIdSMALL AeEeIeOeTUeUeYAeYOeYUdSO",
    "dSUdTAdTEdTIdTOdTUdUdWAdWOdYAdYOdYUcMIDDLE DOTcSEMI-VOICED SOUND MARKcVOICED SOUND MARK",
    "bKATAKANA-HIRAGANA PROLONGED SOUND MARKbLEFT CORNER BRACKETbLEFTWARDS ARROW",
    "bRIGHT CORNER BRACKETbRIGHTWARDS ARROWbUPWARDS ARROWbWHITE CIRCLEaHAMBURGERaHAMMERbAND PICK",
    "cSICKLEcWRENCHaHAMSAaHAMSTER FACEaHAND WITH INDEX AND MIDDLE FINGERS CROSSED",
    "dFINGER AND THUMB CROSSEDaHANDBAGaHANDBALLaHANDSHAKEaHANGUL CHOSEONG CEONGCHIEUMCHIEUCH",
    "cCEONGCHIEUMCIEUCcCEONGCHIEUMSIOScCEONGCHIEUMSSANGCIEUCcCEONGCHIEUMSSANGSIOScCHIEUCH",
    "cCHIEUCH-HIEUHcCHIEUCH-KHIEUKHcCHITUEUMCHIEUCHcCHITUEUMCIEUCcCHITUEUMSIOScCHITUEUMSSANGCIEUC",
    "cCHITUEUMSSANGSIOScCIEUCcCIEUC-IEUNGcFILLERcHIEUHcHIEUH-SIOScIEUNGcIEUNG-CHIEUCHcIEUNG-CIEUC",
    "cIEUNG-HIEUHcIEUNG-KIYEOKcIEUNG-MIEUMcIEUNG-PANSIOScIEUNG-PHIEUPHcIEUNG-PIEUPcIEUNG-RIEUL",
    "cIEUNG-SIOScIEUNG-THIEUTHcIEUNG-TIKEUTcKAPYEOUNMIEUMcKAPYEOUNPHIEUPHcKAPYEOUNPIEUP",
    "cKAPYEOUNRIEULcKAPYEOUNSSANGPIEUPcKHIEUKHcKIYEOKcKIYEOK-TIKEUTcMIEUMcMIEUM-KIYEOK",
    "cMIEUM-PIEUPcMIEUM-SIOScMIEUM-TIKEUTcNIEUNcNIEUN-CIEUCcNIEUN-HIEUHcNIEUN-KIYEOKcNIEUN-PIEUP",
    "cNIEUN-SIOScNIEUN-TIKEUTcPANSIOScPHIEUPHcPHIEUPH-HIEUHcPHIEUPH-PIEUPcPIEUPcPIEUP-CHIEUCH",
    "cPIEUP-CIEUCcPIEUP-HIEUHcPIEUP-KHIEUKHcPIEUP-KIYEOKcPIEUP-NIEUNcPIEUP-PHIEUPHcPIEUP-SIOS",
    "cPIEUP-SIOS-CIEUCcPIEUP-SIOS-KIYEOKcPIEUP-SIOS-PIEUPcPIEUP-SIOS-THIEUTHcPIEUP-SIOS-TIKEUT",
    "cPIEUP-SSANGSIOScPIEUP-THIEUTHcPIEUP-TIKEUTcRIEULcRIEUL-CIEUCcRIEUL-HIEUH",
    "cRIEUL-KAPYEOUNPIEUPcRIEUL-KHIEUKHcRIEUL-KIYEOKcRIEUL-MIEUMcRIEUL-NIEUNcRIEUL-PIEUP",
    "cRIEUL-SIOScRIEUL-SSANGKIYEOKcRIEUL-SSANGPIEUPcRIEUL-SSANGTIKEUTcRIEUL-TIKEUTcSIOS",
    "cSIOS-CHIEUCHcSIOS-CIEUCcSIOS-HIEUHcSIOS-IEUNGcSIOS-KHIEUKHcSIOS-KIYEOKcSIOS-MIEUM",
    "cSIOS-NIEUNcSIOS-PHIEUPHcSIOS-PIEUPcSIOS-PIEUP-KIYEOKcSIOS-RIEULcSIOS-SSANGSIOScSIOS-THIEUTH",
    "cSIOS-TIKEUTcSSANGCIEUCcSSANGCIEUC-HIEUHcSSANGHIEUHcSSANGIEUNGcSSANGKIYEOKcSSANGNIEUN",
    "cSSANGPIEUPcSSANGRIEULcSSANGSIOScSSANGSIOS-PIEUPcSSANGTHIEUTHcSSANGTIKEUTcSSANGYEORINHIEUH",
    "cTHIEUTHcTIKEUTcTIKEUT-CIEUCcTIKEUT-KIYEOKcTIKEUT-MIEUMcTIKEUT-PIEUPcTIKEUT-RIEUL",
    "cTIKEUT-SIOScYEORINHIEUHcYESIEUNGbDOUBLE DOT TONE MARKbFILLERbJONGSEONG CHIEUCHcCIEUC",
    "cCIEUC-PIEUPcCIEUC-SSANGPIEUPcHIEUHcHIEUH-MIEUMcHIEUH-NIEUNcHIEUH-PIEUPcHIEUH-RIEULcIEUNG",
    "cIEUNG-KHIEUKHcIEUNG-KIYEOKcIEUNG-SSANGKIYEOKcKAPYEOUNMIEUMcKAPYEOUNPHIEUPHcKAPYEOUNPIEUP",
    "cKAPYEOUNRIEULcKHIEUKHcKIYEOKcKIYEOK-CHIEUCHcKIYEOK-HIEUHcKIYEOK-KHIEUKHcKIYEOK-NIEUN",
    "cKIYEOK-PIEUPcKIYEOK-RIEULcKIYEOK-SIOScKIYEOK-SIOS-KIYEOKcMIEUMcMIEUM-CHIEUCHcMIEUM-CIEUC",
    "cMIEUM-HIEUHcMIEUM-KIYEOKcMIEUM-NIEUNcMIEUM-PANSIOScMIEUM-PIEUPcMIEUM-PIEUP-SIOScMIEUM-RIEUL",
    "cMIEUM-SIOScMIEUM-SSANGNIEUNcMIEUM-SSANGSIOScNIEUNcNIEUN-CHIEUCHcNIEUN-CIEUCcNIEUN-HIEUH",
    "cNIEUN-KIYEOKcNIEUN-PANSIOScNIEUN-RIEULcNIEUN-SIOScNIEUN-THIEUTHcNIEUN-TIKEUTcPANSIOS",
    "cPANSIOS-KAPYEOUNPIEUPcPANSIOS-PIEUPcPHIEUPHcPHIEUPH-PIEUPcPHIEUPH-SIOScPHIEUPH-THIEUTH",
    "cPIEUPcPIEUP-CHIEUCHcPIEUP-CIEUCcPIEUP-HIEUHcPIEUP-MIEUMcPIEUP-PHIEUPHcPIEUP-RIEUL",
    "cPIEUP-RIEUL-PHIEUPHcPIEUP-SIOScPIEUP-SIOS-TIKEUTcPIEUP-TIKEUTcRIEULcRIEUL-HIEUH",
    "cRIEUL-KAPYEOUNPIEUPcRIEUL-KHIEUKHcRIEUL-KIYEOKcRIEUL-KIYEOK-HIEUHcRIEUL-KIYEOK-SIOS",
    "cRIEUL-MIEUMcRIEUL-MIEUM-HIEUHcRIEUL-MIEUM-KIYEOKcRIEUL-MIEUM-SIOScRIEUL-NIEUNcRIEUL-PANSIOS",
    "cRIEUL-PHIEUPHcRIEUL-PIEUPcRIEUL-PIEUP-HIEUHcRIEUL-PIEUP-PHIEUPHcRIEUL-PIEUP-SIOS",
    "cRIEUL-PIEUP-TIKEUTcRIEUL-SIOScRIEUL-SSANGKIYEOKcRIEUL-SSANGSIOScRIEUL-THIEUTHcRIEUL-TIKEUT",
    "cRIEUL-TIKEUT-HIEUHcRIEUL-YEORINHIEUHcRIEUL-YEORINHIEUH-HIEUHcRIEUL-YESIEUNGcSIOS",
    "cSIOS-CHIEUCHcSIOS-CIEUCcSIOS-HIEUHcSIOS-KAPYEOUNPIEUPcSIOS-KIYEOKcSIOS-MIEUMcSIOS-PANSIOS",
    "cSIOS-PIEUPcSIOS-RIEULcSIOS-THIEUTHcSIOS-TIKEUTcSSANGCIEUCcSSANGIEUNGcSSANGKIYEOKcSSANGMIEUM",
    "cSSANGNIEUNcSSANGPIEUPcSSANGRIEULcSSANGRIEUL-KHIEUKHcSSANGSIOScSSANGSIOS-KIYEOK",
    "cSSANGSIOS-TIKEUTcSSANGTIKEUTcSSANGTIKEUT-PIEUPcSSANGYESIEUNGcTHIEUTHcTIKEUTcTIKEUT-CHIEUCH",
    "cTIKEUT-CIEUCcTIKEUT-KIYEOKcTIKEUT-PIEUPcTIKEUT-RIEULcTIKEUT-SIOScTIKEUT-SIOS-KIYEOK",
    "cTIKEUT-THIEUTHcYEORINHIEUHcYESIEUNGcYESIEUNG-HIEUHcYESIEUNG-KHIEUKHcYESIEUNG-KIYEOK",
    "cYESIEUNG-MIEUMcYESIEUNG-PANSIOScYESIEUNG-SIOScYESIEUNG-SSANGKIYEOKbJUNGSEONG AcA-EUcA-OcA-U",
    "cAEcARAEAcARAEA-AcARAEA-EcARAEA-EOcARAEA-IcARAEA-UcEcEOcEO-EUcEO-OcEO-UcEUcEU-AcEU-EcEU-EO",
    "cEU-EUcEU-OcEU-UcFILLERcIcI-AcI-ARAEAcI-EUcI-IcI-OcI-O-IcI-UcI-YAcI-YA-OcI-YAEcI-YEcI-YEO",
    "cI-YOcI-YUcOcO-EcO-EOcO-OcO-O-IcO-UcO-YAcO-YAEcO-YEcO-YEOcOEcSSANGARAEAcUcU-AcU-AEcU-EO-EU",
    "cU-I-IcU-UcU-YEcU-YEOcWAcWAEcWEcWEOcWIcYAcYA-OcYA-UcYA-YOcYAEcYEcYEOcYEO-OcYEO-UcYEO-YAcYI",
    "cYI-UcYOcYO-AcYO-AEcYO-EOcYO-IcYO-OcYO-YAcYO-YAEcYO-YEOcYUcYU-AcYU-AEcYU-EcYU-EOcYU-IcYU-O",
    "cYU-UcYU-YEcYU-YEObLETTER AcAEcARAEAcARAEAEcCHIEUCHcCIEUCcEcEOcEUcHIEUHcIcIEUNG",
    "cKAPYEOUNMIEUMcKAPYEOUNPHIEUPHcKAPYEOUNPIEUPcKAPYEOUNSSANGPIEUPcKHIEUKHcKIYEOKcKIYEOK-SIOS",
    "cMIEUMcMIEUM-PANSIOScMIEUM-PIEUPcMIEUM-SIOScNIEUNcNIEUN-CIEUCcNIEUN-HIEUHcNIEUN-PANSIOS",
    "cNIEUN-SIOScNIEUN-TIKEUTcOcOEcPANSIOScPHIEUPHcPIEUPcPIEUP-CIEUCcPIEUP-KIYEOKcPIEUP-SIOS",
    "cPIEUP-SIOS-KIYEOKcPIEUP-SIOS-TIKEUTcPIEUP-THIEUTHcPIEUP-TIKEUTcRIEULcRIEUL-HIEUH",
    "cRIEUL-KIYEOKcRIEUL-KIYEOK-SIOScRIEUL-MIEUMcRIEUL-PANSIOScRIEUL-PHIEUPHcRIEUL-PIEUP",
    "cRIEUL-PIEUP-SIOScRIEUL-SIOScRIEUL-THIEUTHcRIEUL-TIKEUTcRIEUL-YEORINHIEUHcSIOScSIOS-CIEUC",
    "cSIOS-KIYEOKcSIOS-NIEUNcSIOS-PIEUPcSIOS-TIKEUTcSSANGCIEUCcSSANGHIEUHcSSANGIEUNGcSSANGKIYEOK",
    "cSSANGNIEUNcSSANGPIEUPcSSANGSIOScSSANGTIKEUTcTHIEUTHcTIKEUTcUcWAcWAEcWEcWEOcWIcYAcYAEcYEcYEO",
    "cYEORINHIEUHcYESIEUNGcYESIEUNG-PANSIOScYESIEUNG-SIOScYIcYOcYO-IcYO-YAcYO-YAEcYUcYU-IcYU-YE",
    "cYU-YEObSINGLE DOT TONE MARKaHANGZHOU NUMERAL EIGHTcFIVEcFOURcNINEcONEcSEVENcSIXcTENcTHIRTY",
    "cTHREEcTWENTYcTWOaHANIFI ROHINGYA DIGIT EIGHTdFIVEdFOURdNINEdONEdSEVENdSIXdTHREEdTWOdZERO",
    "cLETTER AdBAdCAdDAdDDAdFAdGAdHAdJAdKAdKHAdKINNA WAeYAdLAdMAdNAdNGAdNYAdPAdRAdRRAdSAdSHAdTA",
    "dTTAdVAdWAdYAdZAcMARK NA KHONNAdSAKINcSIGN HARBAHAYdTAHALAdTANAdTASSIcVOWEL AdEdIdOdU",
    "aHANUNOO LETTER AcBAcDAcGAcHAcIcKAcLAcMAcNAcNGAcPAcRAcSAcTAcUcWAcYAbSIGN PAMUDPOD",
    "bVOWEL SIGN IdUaHAPPY PERSON RAISING ONE HANDaHARD DISKaHATCHING CHICKaHATRAN LETTER ALEPH",
    "cAYNcBETHcDALETH-RESHcGIMELcHEcHETHcKAPHcLAMEDHcMEMcNUNcPEcQOPHcSADHEcSAMEKHcSHINcTAWcTETH",
    "cWAWcYODHcZAYNbNUMBER FIVEcONEdHUNDREDcTENcTWENTYaHEADPHONEaHEADSTONEbGRAVEYARD SYMBOL",
    "aHEAR-NO-EVIL MONKEYaHEART DECORATIONbHANDSbWITH ARROWcRIBBONcTIP ON THE LEFT",
    "aHEAVY AMPERSAND ORNAMENTbARROW SHAFT WIDTH ONEfHALFfTHIRDeTWO THIRDSbASTERISKbBALLOT X",
    "bBLACK CURVED DOWNWARDS AND RIGHTWARDS ARROWdUPWARDS AND RIGHTWARDS ARROWcHEART",
    "bBLACK-FEATHERED NORTH EAST ARROWcRIGHTWARDS ARROWcSOUTH EAST ARROWbCHECK MARK",
    "bCHEVRON SNOWFLAKEbCIRCLEcWITH CIRCLE INSIDEdSTROKE AND TWO DOTS ABOVEbCIRCLED SALTIRE",
    "bCONCAVE-POINTED BLACK RIGHTWARDS ARROWbDASHED TRIANGLE-HEADED RIGHTWARDS ARROW",
    "bDIVISION SIGNbDOLLAR SIGNbDOUBLE COMMA QUOTATION MARK ORNAMENT",
    "cTURNED COMMA QUOTATION MARK ORNAMENTbDOWNWARDS ARROW WITH EQUILATERAL ARROWHEAD",
    "eLARGE EQUILATERAL ARROWHEADbEIGHT POINTED BLACK STARdPINWHEEL STARdRECTILINEAR BLACK STAR",
    "cSPOKED ASTERISKcTEARDROP-SPOKED PROPELLER ASTERISKbEQUALS SIGNbEXCLAMATION MARK ORNAMENT",
    "dSYMBOLbFIVE POINTED BLACK STARcSPOKED ASTERISKbFOUR BALLOON-SPOKED ASTERISKbGREEK CROSS",
    "bHEART EXCLAMATION MARK ORNAMENTbHORIZONTAL FILLbINTERROBANG ORNAMENTbLARGE CIRCLE",
    "bLATIN CROSSbLEFT-POINTING ANGLE BRACKET ORNAMENTdQUOTATION MARK ORNAMENT",
    "bLEFTWARDS ARROW WITH EQUILATERAL ARROWHEADeLARGE EQUILATERAL ARROWHEAD",
    "bLIGATURE OPEN ET ORNAMENTbLOW DOUBLE COMMA QUOTATION MARK ORNAMENT",
    "cSINGLE COMMA QUOTATION MARK ORNAMENTbLOWER RIGHT-SHADOWED WHITE RIGHTWARDS ARROWbMINUS SIGN",
    "bMULTIPLICATION XbNORTH EAST ARROWdPOINTING BUDeVINE LEAFcWEST POINTING BUDeVINE LEAF",
    "bOPEN CENTRE CROSSbOUTLINED BLACK STARbOVAL WITH OVAL INSIDEbPLUS SIGN",
    "bRIGHT-POINTING ANGLE BRACKET ORNAMENTdQUOTATION MARK ORNAMENTbRIGHTWARDS ARROW",
    "dWITH EQUILATERAL ARROWHEADeLARGE EQUILATERAL ARROWHEADbROUND-TIPPED RIGHTWARDS ARROW",
    "bSALTIREbSANS-SERIF INTERROBANG ORNAMENTbSCRIPT LIGATURE ET ORNAMENT",
    "bSINGLE COMMA QUOTATION MARK ORNAMENTcTURNED COMMA QUOTATION MARK ORNAMENT",
    "bSIX POINTED BLACK STARcSPOKED ASTERISKbSOUTH EAST ARROWdPOINTING BUDeVINE LEAF",
    "cWEST POINTING BUDeVINE LEAFbSPARKLEbTEARDROP-SHANKED RIGHTWARDS ARROW",
    "bTEARDROP-SPOKED ASTERISKcPINWHEEL ASTERISKbTRIANGLE-HEADED RIGHTWARDS ARROW",
    "bTWELVE POINTED BLACK STARdPINWHEEL STARbUPPER RIGHT-SHADOWED WHITE RIGHTWARDS ARROW",
    "bUPWARDS ARROW WITH EQUILATERAL ARROWHEADeLARGE EQUILATERAL ARROWHEADbVERTICAL BAR",
    "bWEDGE-TAILED RIGHTWARDS ARROWbWHITE CIRCLEcDOWN-POINTING TRIANGLEcSQUARE",
    "bWIDE-HEADED RIGHTWARDS ARROWaHEBREW ACCENT ATNAH HAFUKHcDARGAcDEHIcETNAHTAcGERESHdMUQDAM",
    "cGERSHAYIMcILUYcMAHAPAKHcMERKHAdKEFULAcMUNAHcOLEcPASHTAcPAZERcQADMAcQARNEY PARAcREVIAcSEGOL",
    "cSHALSHELETcTELISHA GEDOLAdQETANAcTEVIRcTIPEHAcYERAH BEN YOMOcYETIVcZAQEF GADOLdQATANcZARQA",
    "cZINORbLETTER ALEFdWITH MAPIQePATAHeQAMATScALTERNATIVE AYINdPLUS SIGNcAYINcBETdWITH DAGESH",
    "eRAFEcDALETdWITH DAGESHcFINAL KAFeWITH DAGESHdMEMdNUNdPEeWITH DAGESHdTSADIcGIMELdWITH DAGESH",
    "cHEdWITH MAPIQcHETcKAFdWITH DAGESHeRAFEcLAMEDdWITH DAGESHcMEMdWITH DAGESHcNUNdWITH DAGESHcPE",
    "dWITH DAGESHeRAFEcQOFdWITH DAGESHcRESHdWITH DAGESHcSAMEKHdWITH DAGESHcSHINdWITH DAGESH",
    "fAND SHIN DOTgSIN DOTeSHIN DOTeSIN DOTcTAVdWITH DAGESHcTETdWITH DAGESHcTSADIdWITH DAGESHcVAV",
    "dWITH DAGESHeHOLAMcWIDE ALEFdDALETdFINAL MEMdHEdKAFdLAMEDdRESHdTAVcYODdWITH DAGESHeHIRIQ",
    "cZAYINdWITH DAGESHbLIGATURE ALEF LAMEDcYIDDISH DOUBLE VAVeYODdVAV YODdYOD YOD PATAH",
    "bMARK LOWER DOTcMASORA CIRCLEcUPPER DOTbPOINT DAGESH OR MAPIQcHATAF PATAHdQAMATSdSEGOLcHIRIQ",
    "cHOLAMdHASER FOR VAVcJUDEO-SPANISH VARIKAcMETEGcPATAHcQAMATSdQATANcQUBUTScRAFEcSEGOLcSHEVA",
    "cSHIN DOTcSIN DOTcTSEREbPUNCTUATION GERESHcGERSHAYIMcMAQAFcNUN HAFUKHAcPASEQcSOF PASUQ",
    "bYOD TRIANGLEaHEDGEHOGaHELICOPTERaHELLSCHREIBER PAUSE SYMBOLaHELM SYMBOL",
    "aHELMET WITH WHITE CROSSaHENTAIGANA LETTER A-1cA-2cA-3cA-WOcE-1cE-2cE-3cE-4cE-5cE-6cHA-1",
    "cHA-10cHA-11cHA-2cHA-3cHA-4cHA-5cHA-6cHA-7cHA-8cHA-9cHE-1cHE-2cHE-3cHE-4cHE-5cHE-6cHE-7cHI-1",
    "cHI-2cHI-3cHI-4cHI-5cHI-6cHI-7cHO-1cHO-2cHO-3cHO-4cHO-5cHO-6cHO-7cHO-8cHU-1cHU-2cHU-3cI-1",
    "cI-2cI-3cI-4cKA-1cKA-10cKA-11cKA-2cKA-3cKA-4cKA-5cKA-6cKA-7cKA-8cKA-9cKA-KEcKE-1cKE-2cKE-3",
    "cKE-4cKE-5cKE-6cKI-1cKI-2cKI-3cKI-4cKI-5cKI-6cKI-7cKI-8cKO-1cKO-2cKO-3cKO-KIcKU-1cKU-2cKU-3",
    "cKU-4cKU-5cKU-6cKU-7cMA-1cMA-2cMA-3cMA-4cMA-5cMA-6cMA-7cME-1cME-2cME-MAcMI-1cMI-2cMI-3cMI-4",
    "cMI-5cMI-6cMI-7cMO-1cMO-2cMO-3cMO-4cMO-5cMO-6cMU-1cMU-2cMU-3cMU-4cN-MU-MO-1cN-MU-MO-2cNA-1",
    "cNA-2cNA-3cNA-4cNA-5cNA-6cNA-7cNA-8cNA-9cNE-1cNE-2cNE-3cNE-4cNE-5cNE-6cNE-KOcNI-1cNI-2cNI-3",
    "cNI-4cNI-5cNI-6cNI-7cNI-TEcNO-1cNO-2cNO-3cNO-4cNO-5cNU-1cNU-2cNU-3cO-1cO-2cO-3cRA-1cRA-2",
    "cRA-3cRA-4cRE-1cRE-2cRE-3cRE-4cRI-1cRI-2cRI-3cRI-4cRI-5cRI-6cRI-7cRO-1cRO-2cRO-3cRO-4cRO-5",
    "cRO-6cRU-1cRU-2cRU-3cRU-4cRU-5cRU-6cSA-1cSA-2cSA-3cSA-4cSA-5cSA-6cSA-7cSA-8cSE-1cSE-2cSE-3",
    "cSE-4cSE-5cSI-1cSI-2cSI-3cSI-4cSI-5cSI-6cSO-1cSO-2cSO-3cSO-4cSO-5cSO-6cSO-7cSU-1cSU-2cSU-3",
    "cSU-4cSU-5cSU-6cSU-7cSU-8cTA-1cTA-2cTA-3cTA-4cTE-1cTE-2cTE-3cTE-4cTE-5cTE-6cTE-7cTE-8cTE-9",
    "cTI-1cTI-2cTI-3cTI-4cTI-5cTI-6cTI-7cTO-1cTO-2cTO-3cTO-4cTO-5cTO-6cTO-RAcTU-1cTU-2cTU-3cTU-4",
    "cTU-TOcU-1cU-2cU-3cU-4cU-5cWA-1cWA-2cWA-3cWA-4cWA-5cWE-1cWE-2cWE-3cWE-4cWI-1cWI-2cWI-3cWI-4",
    "cWI-5cWO-1cWO-2cWO-3cWO-4cWO-5cWO-6cWO-7cYA-1cYA-2cYA-3cYA-4cYA-5cYA-YOcYO-1cYO-2cYO-3cYO-4",
    "cYO-5cYO-6cYU-1cYU-2cYU-3cYU-4aHERBaHERMITIAN CONJUGATE MATRIXaHEXAGRAM FOR ABUNDANCE",
    "cAFTER COMPLETIONcAPPROACHcBEFORE COMPLETIONcBITING THROUGHcBREAKTHROUGHcCOMING TO MEET",
    "cCONFLICTcCONTEMPLATIONcDARKENING OF THE LIGHTcDECREASEcDELIVERANCEcDEVELOPMENT",
    "cDIFFICULTY AT THE BEGINNINGcDISPERSIONcDURATIONcENTHUSIASMcFELLOWSHIPcFOLLOWING",
    "cGATHERING TOGETHERcGRACEcGREAT POSSESSIONdPOWERdPREPONDERANCEdTAMINGcHOLDING TOGETHER",
    "cINCREASEcINFLUENCEcINNER TRUTHcINNOCENCEcLIMITATIONcMODESTYcMOUTH CORNERScOBSTRUCTION",
    "cOPPOSITIONcOPPRESSIONcPEACEcPROGRESScPUSHING UPWARDcRETREATcRETURNcREVOLUTION",
    "cSMALL PREPONDERANCEdTAMINGcSPLITTING APARTcSTANDSTILLcTHE ABYSMAL WATERdARMY",
    "dAROUSING THUNDERdCAULDRONdCLINGING FIREdCREATIVE HEAVENdFAMILYdGENTLE WINDdJOYOUS LAKE",
    "dKEEPING STILL MOUNTAINdMARRYING MAIDENdRECEPTIVE EARTHdWANDERERdWELLcTREADINGcWAITING",
    "cWORK ON THE DECAYEDcYOUTHFUL FOLLYaHIBISCUSaHIGH BRIGHTNESS SYMBOLbOCTET PRESET",
    "bVOLTAGE SIGNaHIGH-HEELED SHOEaHIGH-SPEED TRAINcWITH BULLET NOSEaHIKING BOOTaHINDU TEMPLE",
    "aHIPPOPOTAMUSaHIRAGANA DIGRAPH YORIbITERATION MARKbLETTER AcARCHAIC WUdYEcBAcBEcBIcBOcBUcDA",
    "cDEcDIcDOcDUcEcGAcGEcGIcGOcGUcHAcHEcHIcHOcHUcIcKAcKEcKIcKOcKUcMAcMEcMIcMOcMUcNcNAcNEcNIcNO",
    "cNUcOcPAcPEcPIcPOcPUcRAcREcRIcROcRUcSAcSEcSIcSMALL AdEdIdKAdKEdOdTUdUdWAdWEdWIdWOdYAdYOdYU",
    "cSOcSUcTAcTEcTIcTOcTUcUcVUcWAcWEcWIcWOcYAcYOcYUcZAcZEcZIcZOcZUbVOICED ITERATION MARK",
    "aHISTORIC SITEaHOCHOaHOLEaHOLLOW QUILT SQUARE ORNAMENTeIN BLACK SQUAREaHOMOTHETICaHONEY POT",
    "aHONEYBEEaHOOKaHOPaHORIZONTAL BARbBLACK HEXAGONcOCTAGONbELLIPSISbLINE EXTENSION",
    "bMALE WITH STROKE SIGNbONE EIGHTH BLOCK-1358dBLOCK-2dBLOCK-3dBLOCK-4dBLOCK-5dBLOCK-6dBLOCK-7",
    "bSCAN LINE-1cLINE-3cLINE-7cLINE-9bTAB KEYbTABULATIONcSETcWITH JUSTIFICATIONbTRAFFIC LIGHT",
    "aHORSEbFACEbRACINGaHOSPITALaHOT BEVERAGEbDOGbPEPPERbSPRINGSaHOTELaHOURGLASS",
    "bWITH FLOWING SANDaHOUSEbBUILDINGbBUILDINGSbWITH GARDENaHRYVNIA SIGNaHTaHTJaHTSaHUGGING FACE",
    "aHUNDRED POINTS SYMBOLaHUSHED FACEaHUTaHYGIEAaHYPHENbBULLETbWITH DIAERESISaHYPHEN-MINUS",
    "aHYPHENATION POINTaHYPODIASTOLEaHYSTERESIS SYMBOLaI LOVE YOU HAND SIGNaICE CREAMbCUBE",
    "bHOCKEY STICK AND PUCKbSKATEaIDENTICAL TOcAND SLANTED PARALLELbWITH DOT ABOVE",
    "aIDENTIFICATION CARDaIDEOGRAPHIC ANNOTATION BOTTOM MARKcEARTH MARKcFIRST MARKcFOUR MARK",
    "cFOURTH MARKcHEAVEN MARKcLINKING MARKcMAN MARKcMIDDLE MARKcONE MARKcREVERSE MARKcSECOND MARK",
    "cTHIRD MARKcTHREE MARKcTOP MARKcTWO MARKbCLOSING MARKbCOMMAbDEPARTING TONE MARK",
    "bDESCRIPTION CHARACTER ABOVE TO BELOWfMIDDLE AND BELOWdFULL SURROUND",
    "dLEFT TO MIDDLE AND RIGHTfRIGHTdOVERLAIDdSURROUND FROM ABOVEfBELOWfLEFTfLOWER LEFT",
    "fUPPER LEFTgRIGHTbENTERING TONE MARKbFULL STOPbHALF FILL SPACEbITERATION MARK",
    "bLEVEL TONE MARKbNUMBER ZERObRISING TONE MARKbSPACEbTALLY MARK FIVEdFOURdONEdTHREEdTWO",
    "bTELEGRAPH LINE FEED SEPARATOR SYMBOLcSYMBOL FOR APRILeAUGUSTeDAY EIGHTfEIGHTEENfELEVEN",
    "fFIFTEENfFIVEfFOURfFOURTEENfNINEfNINETEENfONEfSEVENfSEVENTEENfSIXfSIXTEENfTENfTHIRTEEN",
    "fTHIRTYfTHIRTY-ONEfTHREEfTWELVEfTWENTYfTWENTY-EIGHTfTWENTY-FIVEfTWENTY-FOURfTWENTY-NINE",
    "fTWENTY-ONEfTWENTY-SEVENfTWENTY-SIXfTWENTY-THREEfTWENTY-TWOfTWOeDECEMBEReFEBRUARYeHOUR EIGHT",
    "fEIGHTEENfELEVENfFIFTEENfFIVEfFOURfFOURTEENfNINEfNINETEENfONEfSEVENfSEVENTEENfSIXfSIXTEEN",
    "fTENfTHIRTEENfTHREEfTWELVEfTWENTYfTWENTY-FOURfTWENTY-ONEfTWENTY-THREEfTWENTY-TWOfTWOfZERO",
    "eJANUARYeJULYeJUNEeMARCHeMAYeNOVEMBEReOCTOBEReSEPTEMBERbVARIATION INDICATORaIMAGE OF",
    "cOR APPROXIMATELY EQUAL TOaIMPaIMPERIAL ARAMAIC LETTER ALEPHdAYINdBETHdDALETHdGIMELdHEdHETH",
    "dKAPHdLAMEDHdMEMdNUNdPEdQOPHdRESHdSADHEdSAMEKHdSHINdTAWdTETHdWAWdYODHdZAYINcNUMBER ONE",
    "eHUNDREDeTHOUSANDdTENeTHOUSANDdTHREEdTWENTYdTWOcSECTION SIGNaINBOX TRAYaINCOMING ENVELOPE",
    "aINCOMPLETE INFINITYaINCREASE FONT SIZE SYMBOLaINCREASES ASaINCREMENTaINDaINDEX",
    "bPOINTING AT THE VIEWERaINDIAN RUPEE SIGNaINDIC SIYAQ ALTERNATE LAKH MARKcFRACTION ONE HALF",
    "eQUARTERdTHREE QUARTERScLAKH MARKcNUMBER ALTERNATE ONEeTEN THOUSANDeTWOdEIGHTeHUNDRED",
    "eTHOUSANDdEIGHTYeTHOUSANDdFIFTYeTHOUSANDdFIVEeHUNDREDeTHOUSANDdFORTYeTHOUSANDdFOUReHUNDRED",
    "eTHOUSANDdKARORdKARORANdLAKHdLAKHANdNINEeHUNDREDeTHOUSANDdNINETYeTHOUSANDdONEeHUNDRED",
    "eTHOUSANDdPREFIXED EIGHTeFIVEeFOUReNINEeONEeSEVENeSIXeTHREEeTWOdSEVENeHUNDREDeTHOUSAND",
    "dSEVENTYeTHOUSANDdSIXeHUNDREDeTHOUSANDdSIXTYeTHOUSANDdTENeTHOUSANDdTHIRTYeTHOUSANDdTHREE",
    "eHUNDREDeTHOUSANDdTWENTYeTHOUSANDdTWOeHUNDREDeTHOUSANDcPLACEHOLDERcRUPEE MARKaINFINITY",
    "bNEGATED WITH VERTICAL BARaINFORMATION DESK PERSONbSEPARATOR FOURcONEcTHREEcTWObSOURCE",
    "aINHIBIT ARABIC FORM SHAPINGbSYMMETRIC SWAPPINGaINPUT SYMBOL FOR LATIN CAPITAL LETTERS",
    "eLETTERSeSMALL LETTERSdNUMBERSdSYMBOLSaINSCRIPTIONAL PAHLAVI LETTER ALEPHdBETHdDALETHdGIMEL",
    "dHEdHETHdKAPHdLAMEDHdMEM-QOPHdNUNdPEdSADHEdSAMEKHdSHINdTAWdTETHdWAW-AYIN-RESHdYODHdZAYIN",
    "cNUMBER FOURdONEeHUNDREDeTHOUSANDdTENdTHREEdTWENTYdTWObPARTHIAN LETTER ALEPHdAYINdBETH",
    "dDALETHdGIMELdHEdHETHdKAPHdLAMEDHdMEMdNUNdPEdQOPHdRESHdSADHEdSAMEKHdSHINdTAWdTETHdWAWdYODH",
    "dZAYINcNUMBER FOURdONEeHUNDREDeTHOUSANDdTENdTHREEdTWENTYdTWOaINSERTION SYMBOLaINTEGRAL",
    "bAROUND A POINT OPERATORbAVERAGE WITH SLASHbEXTENSIONbWITH DOUBLE STROKEcINTERSECTION",
    "cLEFTWARDS ARROW WITH HOOKcOVERBARcTIMES SIGNcUNDERBARcUNIONaINTERCALATEaINTERIOR PRODUCT",
    "aINTERLINEAR ANNOTATION ANCHORcSEPARATORcTERMINATORaINTERLOCKED FEMALE AND MALE SIGN",
    "aINTERROBANGaINTERSECTIONbABOVE BAR ABOVE UNIONcUNIONbBESIDE AND JOINED WITH INTERSECTION",
    "bWITH DOTcLOGICAL ANDcOVERBARaINVERSE BULLETbCHECK MARKbCHECKER BOARD FILL",
    "bDOWNWARDS ARROW WITH TIP LEFTWARDSbMEDIUM SHADEbWHITE CIRCLEaINVERTED EXCLAMATION MARK",
    "bINTERROBANGbLAZY SbLOW KAVYKAdWITH KAVYKA ABOVEbOHM SIGNbPENTAGRAMbQUESTION MARKbUNDERTIE",
    "aINVISIBLE PLUSbSEPARATORbTIMESaIZAKAYA LANTERNaJACK-O-LANTERNaJAPANESE BANK SYMBOLbCASTLE",
    "bDOLLSbGOBLINbINDUSTRIAL STANDARD SYMBOLbOGREbPOST OFFICEbSYMBOL FOR BEGINNERaJAR",
    "aJAVANESE CONSONANT SIGN CAKRAdKERETdPENGKALbDIGIT EIGHTcFIVEcFOURcNINEcONEcSEVENcSIXcTHREE",
    "cTWOcZERObLEFT RERENGGANbLETTER AcAIcBAdMURDAcCAdMURDAcDAdMAHAPRANAcDDAdMAHAPRANAcEcGAdMURDA",
    "cHAcIdKAWIcIIcJAdMAHAPRANAcKAdMURDAdSASAKcLAcMAcNAdMURDAcNGAdLELETeRASWADIcNYAdMURDAcOcPA",
    "dCEREKdMURDAcRAdAGUNGcSAdMAHAPRANAdMURDAcTAdMURDAcTTAdMAHAPRANAcUcWAcYAbPADA ADEGdADEGcANDAP",
    "cISEN-ISENcLINGSAcLUHURcLUNGSIcMADYAcPANGKATcPISELEHcTIRTA TUMETEScWINDUbPANGKONbPANGRANGKEP",
    "bRIGHT RERENGGANbSIGN CECAKdTELUcLAYARcPANYANGGAcWIGNYANbTURNED PADA PISELEH",
    "bVOWEL SIGN DIRGA MUREdPEPETdSUKUeMENDUTdTALINGdTARUNGdTOLONGdWULUeMELIKaJEANS",
    "aJIGSAW PUZZLE PIECEaJOINaJOYSTICKaJUGGLINGaJUNOaJUPITERaKAABAaKAITHI ABBREVIATION SIGN",
    "bDANDAbDOUBLE DANDAcSECTION MARKbENUMERATION SIGNbLETTER AcAAcAIcAUcBAcBHAcCAcCHAcDAcDDA",
    "cDDDHAcDDHAcDHAcEcGAcGHAcHAcIcIIcJAcJHAcKAcKHAcLAcMAcNAcNGAcNNAcNYAcOcPAcPHAcRAcRHAcSAcSHA",
    "cSSAcTAcTHAcTTAcTTHAcUcUUcVAcYAbNUMBER SIGNdABOVEbSECTION MARKbSIGN ANUSVARAcCANDRABINDU",
    "cNUKTAcVIRAMAcVISARGAbVOWEL SIGN AAdAIdAUdEdIdIIdOdUdUUdVOCALIC RaKANGAROO",
    "aKANGXI RADICAL AGAINcANDcARRIVEcARROWcAXEcBADGERcBAMBOOcBEANcBIGcBIRDcBITTERcBLACKcBLOOD",
    "cBLUEcBOATcBODYcBOLT OF CLOTHcBONEcBOWcBRANCHcBRISTLEcBRUSHcCARTcCAULDRONcCAVEcCHILDcCITY",
    "cCLANcCLAWcCLIFFcCLOTHEScCOLORcCOMPAREcCORPSEcCOVERcCOWcDEATHcDEERcDIPPERcDISHcDISTINGUISH",
    "cDIVINATIONcDO NOTcDOGcDOORcDOTcDOTTED CLIFFdTENTcDOUBLE XcDOWN BOXcDRAGONcDRUMcDRYcEAR",
    "cEARTHcEATcEIGHTcEMBROIDERYcENCLOSUREcENTERcEVENcEVENINGcEYEcFACEcFANGcFATHERcFEATHERcFIELD",
    "cFIGHTcFIREcFISHcFLUTEcFLYcFOOTcFRAGRANTcFROGcFURcGATEcGHOSTcGOdSLOWLYcGOLDcGRAINcGRASScHAIR",
    "cHALBERDcHALF TREE TRUNKcHANDcHEADcHEARTcHEMPcHIDING ENCLOSUREcHOOKcHORNcHORSEcICEcINCH",
    "cINSECTcJADEcJARcKNIFEcLACKcLAMEcLEAFcLEATHERcLEEKcLEGScLIDcLIFEcLINEcLONGdSTRIDEcMANcMEAT",
    "cMELONcMILLETcMINISTERcMOONcMORNINGcMORTARcMOUNDcMOUNTAINcMOUTHcNETcNOSEcNOTcOLDcONEcONESELF",
    "cOPEN BOXcOPPOSEcPIGcPLOWcPOWERcPRIVATEcPROFOUNDcRAINcRAPcRATcREDcRICEcRIGHT OPEN BOXcRIVER",
    "cROOFcRUNcSACRIFICIAL WINEcSALTcSAYcSCHOLARcSCRIPTcSEALcSECONDcSEEcSELFcSHEEPcSHELLcSHOOT",
    "cSHORT TAILED BIRDdTHREADcSICKNESScSILKcSKINcSLASHcSLAVEcSLICEcSMALLcSNOUTcSOUNDcSPEAR",
    "cSPEECHcSPIRITcSPOONcSPROUTcSQUAREcSTANDcSTEAMcSTEPcSTONEcSTOPcSTOPPINGcSUNcSWEETcTABLEcTALL",
    "cTANNED LEATHERcTENcTIGERcTILEcTONGUEcTOOTHcTRACKcTREEcTRIPODcTURBANcTURTLEcTWOdHANDScUSE",
    "cVALLEYcVILLAGEcWALKdENCLOSUREcWATERcWEAPONcWESTcWHEATcWHITEcWINDcWINEcWOMANcWORKcWRAPcWRONG",
    "cYELLOWaKANNADA AI LENGTH MARKbDIGIT EIGHTcFIVEcFOURcNINEcONEcSEVENcSIXcTHREEcTWOcZERO",
    "bLENGTH MARKbLETTER AcAAcAIcAUcBAcBHAcCAcCHAcDAcDDAcDDHAcDHAcEcEEcFAcGAcGHAcHAcIcIIcJAcJHA",
    "cKAcKHAcLAcLLAcLLLAcMAcNAcNAKAARA POLLUcNGAcNNAcNYAcOcOOcPAcPHAcRAcRRAcSAcSHAcSSAcTAcTHAcTTA",
    "cTTHAcUcUUcVAcVOCALIC LdLLdRdRRcYAbSIGN ANUSVARAcAVAGRAHAcCANDRABINDUcJIHVAMULIYAcNUKTA",
    "cSIDDHAMcSPACING CANDRABINDUcUPADHMANIYAcVIRAMAcVISARGAbVOWEL SIGN AAdAIdAUdEdEEdIdIIdOdOOdU",
    "dUUdVOCALIC LeLLeReRRaKATAKANA DIGRAPH KOTObITERATION MARKbLETTER AcARCHAIC EdWUdYEdYIcBAcBE",
    "cBIcBOcBUcDAcDEcDIcDOcDUcEcGAcGEcGIcGOcGUcHAcHEcHIcHOcHUcIcKAcKEcKIcKOcKUcMAcMEcMI",
    "cMINNAN NASALIZED TONE-1eTONE-2eTONE-3eTONE-4eTONE-5eTONE-7eTONE-8dTONE-2dTONE-3dTONE-4",
    "dTONE-5dTONE-7dTONE-8cMOcMUcNcNAcNEcNIcNOcNUcOcPAcPEcPIcPOcPUcRAcREcRIcROcRUcSAcSEcSI",
    "cSMALL AdEdHAdHEdHIdHOdHUdIdKAdKEdKUdMUdNdNUdOdRAdREdRIdROdRUdSIdSUdTOdTUdUdWAdWEdWIdWOdYA",
    "dYOdYUcSOcSUcTAcTEcTIcTOcTUcUcVAcVEcVIcVOcVUcWAcWEcWIcWOcYAcYOcYUcZAcZEcZIcZOcZUbMIDDLE DOT",
    "bVOICED ITERATION MARKaKATAKANA-HIRAGANA DOUBLE HYPHENbPROLONGED SOUND MARK",
    "bSEMI-VOICED SOUND MARKbVOICED SOUND MARKaKAYAH LI DIGIT EIGHTdFIVEdFOURdNINEdONEdSEVENdSIX",
    "dTHREEdTWOdZEROcLETTER AdBAdCAdDAdGAdHAdHTAdIdKAdKHAdLAdMAdNAdNGAdNYAdOEdOOdPAdPHAdRAdSAdSHA",
    "dTAdTHAdVAdWAdYAdZAcSIGN CWIdSHYAcTONE CALYAePLOPHUdPLOPHUcVOWEL EdEEdOdUdUEaKELVIN SIGNaKEY",
    "aKEYBOARDbAND MOUSEaKEYCAP TENaKHAROSHTHI DIGIT FOURcONEcTHREEcTWObFRACTION ONE HALF",
    "bLETTER AcBAcBHAcCAcCHAcDAcDDAcDDHAcDHAcGAcGHAcHAcJAcKAcKHAcKKAcLAcMAcNAcNNAcNYAcPAcPHAcRA",
    "cSAcSHAcSSAcTAcTHAcTTAcTTHAcTTTAcTTTHAcVAcVHAcYAcZAbNUMBER ONE HUNDREDdTHOUSANDcTENcTWENTY",
    "bPUNCTUATION CIRCLEcCRESCENT BARcDANDAcDOTcDOUBLE DANDAcLINEScLOTUScMANGALAMcSMALL CIRCLE",
    "bSIGN ANUSVARAcBAR ABOVEcCAUDAcDOT BELOWcDOUBLE RING BELOWcVISARGAbVIRAMAbVOWEL LENGTH MARK",
    "cSIGN EdIdOdUdVOCALIC RaKHITAN SMALL SCRIPT FILLERaKHMER CURRENCY SYMBOL RIELbDIGIT EIGHT",
    "cFIVEcFOURcNINEcONEcSEVENcSIXcTHREEcTWOcZERObINDEPENDENT VOWEL LYdLYYdQAAdQAIdQAQdQAUdQEdQI",
    "dQIIdQOO TYPE ONEfTWOdQUdQUKdQUUdQUUVdRYdRYYbLETTER BAcCAcCHAcCHOcCOcDAcDOcHAcKAcKHAcKHOcKO",
    "cLAcLOcMOcNGOcNNOcNOcNYOcPHAcPHOcPOcQAcROcSAcSHAcSSOcTAcTHAcTHOcTOcTTHAcTTHOcVOcYO",
    "bSIGN AHSDAcATTHACANcAVAKRAHASANYAcBANTOCcBARIYOOSANcBATHAMASATcBEYYALcCAMNUC PII KUUHcCOENG",
    "cKAKABATcKHANcKOOMUUTcLEK TOOcMUUSIKATOANcNIKAHITcPHNAEK MUANcREAHMUKcROBATcSAMYOK SANNYA",
    "cTOANDAKHIATcTRIISAPcVIRIAMcYUUKALEAPINTUbSYMBOL BEI KOETdROCcBUON KOETdROCcDAP KOETdROC",
    "cDAP-BEI KOETdROCcDAP-BUON KOETdROCcDAP-MUOY KOETdROCcDAP-PII KOETdROCcDAP-PRAM KOETdROC",
    "cLEK ATTAK BEIeBUONeMUOYePIIePRAMePRAM-BEIePRAM-BUONePRAM-MUOYePRAM-PIIeSONcMUOY KOETdROC",
    "cPATHAMASATcPII KOETdROCcPRAM KOETdROCcPRAM-BEI KOETdROCcPRAM-BUON KOETdROCcPRAM-MUOY KOET",
    "dROCcPRAM-PII KOETdROCcTUTEYASATbVOWEL INHERENT AAdAQcSIGN AAdAEdAIdAUdEdIdIEdIIdOEdOOdUdUA",
    "dUUdYdYAdYYaKHOJKI ABBREVIATION SIGNbDANDAbDOUBLE DANDAcSECTION MARKbLETTER AcAAcAIcAUcBA",
    "cBBAcBHAcCAcCHAcDAcDDAcDDDAcDDHAcDHAcEcGAcGGAcGHAcHAcIcJAcJJAcKAcKHAcLAcLLAcMAcNAcNGAcNNA",
    "cNYAcOcPAcPHAcRAcSAcTAcTHAcTTAcTTHAcUcVAcYAbSECTION MARKbSIGN ANUSVARAcNUKTAcSHADDAcSUKUN",
    "cVIRAMAbVOWEL SIGN AAdAIdAUdEdIdIIdOdUbWORD SEPARATORaKHUDAWADI DIGIT EIGHTcFIVEcFOURcNINE",
    "cONEcSEVENcSIXcTHREEcTWOcZERObLETTER AcAAcAIcAUcBAcBBAcBHAcCAcCHAcDAcDDAcDDDAcDDHAcDHAcEcGA",
    "cGGAcGHAcHAcIcIIcJAcJHAcJJAcKAcKHAcLAcMAcNAcNGAcNNAcNYAcOcPAcPHAcRAcRRAcSAcSHAcTAcTHAcTTA",
    "cTTHAcUcUUcVAcYAbSIGN ANUSVARAcNUKTAcVIRAMAbVOWEL SIGN AAdAIdAUdEdIdIIdOdUdUUaKIMONO",
    "aKIP SIGNaKISSbMARKaKISSING CAT FACE WITH CLOSED EYESbFACEcWITH CLOSED EYESdSMILING EYES",
    "aKITEaKIWIFRUITaKNEELING PERSONaKNOTaKOALAaKOREAN STANDARD SYMBOLaKRONOS"]

end Jet.Text.CharacterName
