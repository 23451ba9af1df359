/-!
# Names of characters: C

The names that begin with the letter C, in order.  A small letter stands in front of
each name and says how many words the name shares with the one before, `a` for none; only the other
words are given.
-/

namespace Jet.Text.CharacterName

/-- The names that begin with the letter C. -/
def namesC : List String :=
  ["aCACTUSaCADA UNAaCADUCEUSaCALENDARaCALL ME HANDaCAMERAbWITH FLASHaCAMPINGaCAN",
    "aCANADIAN SYLLABICS AcAAcAAIcAAYcAIcAIVILIK BcANcATHAPASCAN MdScAYcBEAVER DENE LeR",
    "cBIBLE-CREE YcBLACKFOOT AdEdIdKAdKEdKIdKOdNAdNEdNIdNOdOdSdWdWAdWEdWIdWOcCcCAcCAAcCAAI",
    "cCARRIER CHAdCHEdCHEEdCHIdCHOdCHUdDEEdDENE GEEdDENTAL SdDIdDLAdDLEdDLEEdDLIdDLOdDLUdDZAdDZE",
    "dDZEEdDZIdDZOdDZUdEEdGAdGAAdGEdGEEdGHAdGHEdGHEEdGHIdGHOdGHUdGIdGOdGUdGWAdGWUdHdHEEdHIdHWA",
    "dHWEdHWEEdHWIdHWOdHWUdIdINITIAL ZdJAdJEdJEEdJIdJJAdJJEdJJEEdJJIdJJOdJJUdJOdJUdJWAdKHAdKHE",
    "dKHEEdKHIdKHOdKHUdKKdKKAdKKEdKKEEdKKIdKKOdKKUdLAdLEdLEEdLHAdLHEdLHEEdLHIdLHOdLHUdLIdLOdLUdMA",
    "dMEdMEEdMIdMOdMUdNAdNEdNEEdNGdNIdNOdNUdPdPAdPEdPEEdPIdPOdPUdRAdREdREEdRIdROdRUdSAdSEdSEEdSH",
    "dSHAdSHEdSHEEdSHIdSHOdSHUdSIdSOdSUdTHAdTHEdTHEEdTHIdTHOdTHUdTLAdTLEdTLEEdTLHAdTLHEdTLHEE",
    "dTLHIdTLHOdTLHUdTLIdTLOdTLUdTSAdTSEdTSEEdTSIdTSOdTSUdTTAdTTEdTTEEdTTIdTTOdTTSAdTTSEdTTSEE",
    "dTTSIdTTSOdTTSUdTTUdWAdWEdWEEdWIdWOdWUdYAdYEdYEEdYIdYOdYUdZdZAdZEdZEEdZIdZOdZUcCEcCHI SIGN",
    "cCIcCIIcCOcCOOcCWAcCWAAcCWEcCWIcCWIIcCWOcCWOOcEcEASTERN WcENcFcFAcFAAcFAAIcFEcFIcFII",
    "cFINAL ACUTEdBOTTOM HALF RINGdDOUBLE ACUTEeSHORT VERTICAL STROKESdDOWN TACKdGRAVEdMIDDLE DOT",
    "dPLUSdRAISED DOTdRIGHT HALF RINGdRINGdSHORT HORIZONTAL STROKEdSMALL RINGdTOP HALF RINGcFO",
    "cFOOcFULL STOPcFWAAcGLOTTAL STOPcHKcHYPHENcIcIIcINcKcKAcKAAcKAAIcKAYcKEcKIcKIIcKOcKOOcKWcKWA",
    "cKWAAcKWAYcKWEcKWIcKWIIcKWOcKWOOcLcLAcLAAcLAAIcLAYcLEcLHcLHAcLHAAcLHIcLHIIcLHOcLHOOcLIcLII",
    "cLOcLOOcLWAcLWAAcLWEcLWIcLWIIcLWOcLWOOcMcMAcMAAcMAAIcMAYcMEcMEDIAL LdRcMHcMIcMIIcMOcMOO",
    "cMOOSE-CREE SKcMWAcMWAAcMWEcMWIcMWIIcMWOcMWOOcNcN-CREE THEdTHIdTHIIcNAcNAAcNAAIcNASKAPI CWAA",
    "dKWAAdMWAAdNWAAdS-WdSCWAdSKWdSKWAdSPWAdSTWAdSWAAdTWAAdWAAdWOOdYWAAcNATTILIK HAdHAAdHIdHIIdHO",
    "dHOOdSHRAdSHRAAdSHRIdSHRIIdSHROdSHROOcNAYcNEcNGcNGAcNGAAcNGAAIcNGAIcNGIcNGIIcNGOcNGOOcNHcNI",
    "cNIIcNNGcNNGAcNNGAAcNNGIcNNGIIcNNGOcNNGOOcNOcNOOcNOYcNUNAVIK HdHAdHAAdHEdHIdHIIdHOdHOO",
    "cNUNAVUT HcNWAcNWAAcNWEcNWIcNWIIcNWOcNWOOcOcOJIBWAY CdKdMdNdNWIdNWIIdNWOdNWOOdPdSdSHdTcONcOO",
    "cOYcPcPAcPAAcPAAIcPAYcPEcPIcPIIcPOcPOOcPOYcPWAcPWAAcPWEcPWIcPWIIcPWOcPWOOcPWOYcQcQAcQAAcQAAI",
    "cQAIcQIcQIIcQOcQOOcRcR-CREE REdRWEcRAcRAAcRAAIcRAYcREcRIcRIIcROcROOcRWAcRWAAcRWEEcRWIcRWII",
    "cRWOcRWOOcScSAcSAAcSAAIcSAYcSAYISI HAdHEdHIdHOdHOOdJIdJUdJUUdMdSHAdSHEdSHIdSHOdSHOOdSHWEdTH",
    "dYIcSEcSHcSHAcSHAAcSHAYcSHEcSHIcSHIIcSHOcSHOOcSHOYcSHWAcSHWAAcSHWEcSHWIcSHWIIcSHWOcSHWOO",
    "cSHWOYcSIcSIIcSOcSOOcSOUTH-SLAVEY KAHdKEHdKIHdKOHcSOYcSPAcSPEcSPIcSPOcSWcSWAcSWAAcSWEcSWI",
    "cSWIIcSWOcSWOOcTcTAcTAAcTAAIcTAYcTEcTHcTH-CREE THdTHAdTHAAdTHEdTHIdTHIIdTHOdTHOOcTHAcTHAA",
    "cTHEcTHIcTHIIcTHOcTHOOcTHWAcTHWAAcTHWEcTIcTIIcTLHAcTLHEcTLHIcTLHOcTLHOOcTLHWEcTOcTOOcTTAcTTE",
    "cTTHcTTHAcTTHAAcTTHEcTTHIcTTHOcTTHOOcTTHWEcTTIcTTOcTWAcTWAAcTWEcTWIcTWIIcTWOcTWOOcTYAcTYE",
    "cTYIcTYOcWAcWAAcWAYcWEcWEST-CREE CWAdCWAAdCWEdCWIdCWIIdCWOdCWOOdFWAAdKWAdKWAAdKWEdKWIdKWII",
    "dKWOdKWOOdLdLAdLAAdLEdLOdLOOdLWAdLWAAdLWEdLWIdLWIIdLWOdLWOOdMdMWAdMWAAdMWEdMWIdMWIIdMWOdMWOO",
    "dNWAdNWAAdNWEdPdPWAdPWAAdPWEdPWIdPWIIdPWOdPWOOdRdRAdREdRIdROdRWAAdSHWAdSHWAAdSHWEdSHWIdSHWII",
    "dSHWOdSHWOOdSWAdSWAAdSWEdSWIdSWIIdSWOdSWOOdTHWAAdTWAdTWAAdTWEdTWIdTWIIdTWOdTWOOdWAdWAAdWEdWI",
    "dWIIdWOdWOOdYdYWAdYWAAdYWEdYWIdYWIIdYWOdYWOOcWESTERN WcWIcWIIcWOcWOOcWOODS-CREE FINAL THdTH",
    "dTHAdTHEdTHIdTHOdTHWAdTHWAAdTHWEEdTHWIdTHWIIdTHWOdTHWOOcYcY-CREE COOdKOOdLOOdMOOdNOOdOOdPOO",
    "dPWAAdSOOdTOOdWdYOOcYAcYAAcYAAIcYAYcYEcYIcYIIcYOcYOOcYOYcYWAcYWAAcYWEcYWIcYWIIcYWOcYWOO",
    "aCANCELbCHARACTERbTAGaCANCELLATION XaCANCERaCANDLEaCANDYaCANNED FOODaCANOEaCAPITULUM",
    "aCAPRICORNaCAR SLIDINGaCARD FILE BOXbINDEXcDIVIDERSaCARE OFaCARETbINSERTION POINT",
    "aCARIAN LETTER AcA2cBcC-18cC-39cDcD2cEcE2cGcG2cIcIIcKcK2cLcLDcLD2cMcMBcMB2cMB3cMB4cNcNDcNG",
    "cNNcOcPcP2cQcRcRRcScSHcSH2cSScSTcST2cTcTTcTT2cUcUUcUUUcUUU2cUUU3cUUUUcXaCARONaCAROUSEL HORSE",
    "aCARP STREAMERaCARPENTRY SAWaCARRIAGE RETURNaCARROTaCASTLEaCATbFACEcWITH TEARS OF JOY",
    "dWRY SMILEaCAUCASIAN ALBANIAN CITATION MARKcLETTER ALTdAORdBETdCARdCAYNdCHAdCHATdCHIdCHOY",
    "dCYAWdCYAYdDATdDYANdDZAYdDZYAYdEBdEYNdFAMdGHEYSdGIMdHEYTdINYAdIRBdIWNdJAYNdJHOXdKARdKIWdLAN",
    "dLYITdMAQdNOWCdONdPENdPIWRdQARdQAYdRATdSEYKdSHAdSHAKdSHOYdTASdTIWRdTYAYdVEYZdXEYNdYAYDdYOWD",
    "dZARLdZHAdZHILaCAUTION SIGNaCCHaCEDI SIGNaCEDILLAaCELTIC CROSSaCENT SIGNaCENTRE LINE SYMBOL",
    "aCENTRELINE LOW LINEbOVERLINEaCERESaCGJaCHAINSaCHAIRaCHAKMA AU MARKbDANDAbDIGIT EIGHTcFIVE",
    "cFOURcNINEcONEcSEVENcSIXcTHREEcTWOcZERObDOUBLE DANDAbLETTER AAcBAAcBHAAcCAAcCHAAcDAAcDDAA",
    "cDDHAAcDHAAcEcGAAcGHAAcHAAcIcJAAcJHAAcKAAcKHAAcLAAcLHAAcMAAcNAAcNGAAcNNAAcNYAAcPAAcPHAAcRAA",
    "cSAAcTAAcTHAAcTTAAcTTHAAcUcVAAcWAAcYAAcYYAAbMAAYYAAbO MARKbQUESTION MARKbSECTION MARK",
    "bSIGN ANUSVARAcCANDRABINDUcVISARGAbVIRAMAbVOWEL SIGN AdAAdAIdAUdEdEIdIdIIdOdOIdUdUU",
    "aCHAM CONSONANT SIGN FINAL HeMeNGdLAdRAdWAdYAbDIGIT EIGHTcFIVEcFOURcNINEcONEcSEVENcSIXcTHREE",
    "cTWOcZERObLETTER AcAIcBAcBBAcBHAcCHAcCHHAcDAcDDAcDHAcEcFINAL CHdGdKdLdNdNGdPdRdSSdTdYcGAcGHA",
    "cHAcIcJAcJHAcKAcKHAcLAcMAcMUEcNAcNGAcNGUEcNHAcNHJAcNHUEcNUEcOcPAcPHAcPPAcRAcSAcSSAcTAcTHAcU",
    "cVAcYAbPUNCTUATION DANDAcDOUBLE DANDAcSPIRALcTRIPLE DANDAbVOWEL SIGN AAdAIdAUdEIdIdIIdOdOEdU",
    "dUEaCHARACTER TABULATIONcSETcWITH JUSTIFICATIONbTIEaCHART WITH DOWNWARDS TRENDcUPWARDS TREND",
    "eAND YEN SIGNaCHECK MARKaCHECKER BOARDcFILLaCHEERING MEGAPHONEaCHEESE WEDGEaCHEQUERED FLAG",
    "aCHEROKEE LETTER AcDAcDEcDIcDLAcDOcDUcDVcEcGAcGEcGIcGOcGUcGVcHAcHEcHIcHNAcHOcHUcHVcIcKAcLA",
    "cLEcLIcLOcLUcLVcMAcMEcMIcMOcMUcMVcNAcNAHcNEcNIcNOcNUcNVcOcQUAcQUEcQUIcQUOcQUUcQUVcScSAcSEcSI",
    "cSOcSUcSVcTAcTEcTIcTLAcTLEcTLIcTLOcTLUcTLVcTSAcTSEcTSIcTSOcTSUcTSVcUcVcWAcWEcWIcWOcWUcWVcYA",
    "cYEcYIcYOcYUcYVbSMALL LETTER AdDAdDEdDIdDLAdDOdDUdDVdEdGAdGEdGIdGOdGUdGVdHAdHEdHIdHNAdHOdHU",
    "dHVdIdKAdLAdLEdLIdLOdLUdLVdMAdMEdMIdMOdMUdMVdNAdNAHdNEdNIdNOdNUdNVdOdQUAdQUEdQUIdQUOdQUUdQUV",
    "dSdSAdSEdSIdSOdSUdSVdTAdTEdTIdTLAdTLEdTLIdTLOdTLUdTLVdTSAdTSEdTSIdTSOdTSUdTSVdUdVdWAdWEdWI",
    "dWOdWUdWVdYAdYEdYIdYOdYUdYVaCHERRIESaCHERRY BLOSSOMaCHESTNUTaCHI RHOaCHICKENaCHILD",
    "aCHILDREN CROSSINGaCHIPMUNKaCHIRONaCHOCOLATE BARaCHOPSTICKSaCHORASMIAN LETTER ALEPHcAYIN",
    "cBETHcCURLED WAWcDALETHcGIMELcHEcHETHcKAPHcLAMEDHcMEMcNUNcPEcRESHcSAMEKHcSHINcSMALL ALEPH",
    "cTAWcWAWcYODHcZAYINbNUMBER FOURcONEdHUNDREDcTENcTHREEcTWENTYcTWOaCHRISTMAS TREEaCHURCH",
    "aCINEMAaCIRCLE DIVIDED BY HORIZONTAL BAR AND TOP HALF DIVIDED BY VERTICAL BAR",
    "bWITH ALL BUT UPPER LEFT QUADRANT BLACKcHORIZONTAL BARcLEFT HALF BLACKcLOWER HALF BLACK",
    "cRIGHT HALF BLACKcSMALL CIRCLE TO THE RIGHTcSUPERIMPOSED X",
    "cTWO HORIZONTAL STROKES TO THE RIGHTcUPPER HALF BLACKdRIGHT QUADRANT BLACKcVERTICAL FILL",
    "aCIRCLED ANTICLOCKWISE ARROWbANTICLOCKWISE-ROTATED DIVISION SIGNbASTERISK OPERATORbBOLD X",
    "bBULLETbC WITH OVERLAID BACKSLASHbCCbCDbCROSS FORMEEdWITH FOUR DOTSeTWO DOTScPOMMEE",
    "bCROSSING LANESbDASHbDIGIT EIGHTcFIVEcFOURcNINEcONEcSEVENcSIXcTHREEcTWOcZERObDIVISION SIGN",
    "cSLASHbDOLLAR SIGN WITH OVERLAID BACKSLASHbDOT OPERATORbEQUALSbGREATER-THANbHANGUL CHIEUCHdA",
    "cCIEUCdAcHIEUHdAcIEUNGdAdUcKHIEUKHdAcKIYEOKdAcMIEUMdAcNIEUNdAcPHIEUPHdAcPIEUPdAcRIEULdAcSIOS",
    "dAcTHIEUTHdAcTIKEUTdAbHEAVY WHITE RIGHTWARDS ARROWbHORIZONTAL BAR WITH NOTCHbHUMAN FIGURE",
    "bIDEOGRAPH ACCEPTcADVANTAGEcALLIANCEcATTENTIONcCENTREcCONGRATULATIONcCOPYcCORRECTcEARTH",
    "cEIGHTcENTERPRISEcEXCELLENTcFEMALEcFINANCIALcFIREcFIVEcFOURcHAVEcHIGHcITEMcKINDERGARTENcKOTO",
    "cLABORcLEFTcLOWcMALEcMEDICINEcMETALcMOONcNAMEcNIGHTcNINEcONEcPRINTcQUESTIONcRELIGION",
    "cRESOURCEcRESTcRIGHTcSCHOOLcSECRETcSEVENcSIXcSOCIETYcSPECIALcSTOCKcSTUDYcSUITABLEcSUN",
    "cSUPERVISEcTENcTHREEcTWOcWATERcWOODbINFORMATION SOURCEbITALIC LATIN CAPITAL LETTER CfR",
    "bKATAKANA AcEcHAcHEcHIcHOcHUcIcKAcKEcKIcKOcKUcMAcMEcMIcMOcMUcNAcNEcNIcNOcNUcOcRAcREcRIcROcRU",
    "cSAcSEcSIcSOcSUcTAcTEcTIcTOcTUcUcWAcWEcWIcWOcYAcYOcYUbKOREAN CHARACTER CHAMKOdJUEUI",
    "bLATIN CAPITAL LETTER AeBeCeDeEeFeGeHeIeJeKeLeMeNeOePeQeReSeTeUeVeWeXeYeZcSMALL LETTER AeBeC",
    "eDeEeFeGeHeIeJeKeLeMeNeOePeQeReSeTeUeVeWeXeYeZbLESS-THANbMINUS",
    "bMULTIPLICATION SIGN WITH CIRCUMFLEX ACCENTbNUMBER EIGHTEENcEIGHTY ON BLACK SQUAREcELEVEN",
    "cFIFTEENcFIFTYdON BLACK SQUAREcFORTYdEIGHTdFIVEdFOURdNINEdON BLACK SQUAREdONEdSEVENdSIX",
    "dTHREEdTWOcFOURTEENcNINETEENcSEVENTEENcSEVENTY ON BLACK SQUAREcSIXTEENcSIXTY ON BLACK SQUARE",
    "cTENdON BLACK SQUAREcTHIRTEENcTHIRTYdEIGHTdFIVEdFOURdNINEdON BLACK SQUAREdONEdSEVENdSIX",
    "dTHREEdTWOcTWELVEcTWENTYdEIGHTdFIVEdFOURdNINEdON BLACK SQUAREdONEdSEVENdSIXdTHREEdTWO",
    "bOPEN CENTRE EIGHT POINTED STARbPARALLELbPERPENDICULARbPLUSbPOSTAL MARKbREVERSE SOLIDUS",
    "bRING OPERATORbSQUAREbTIMESbTRIANGLEcDOWNbVERTICAL BARbWHITE BULLETcSTARbWZbX",
    "bZERO WITH SLASHaCIRCULATION FUNCTIONaCIRCUMFLEX ACCENTaCIRCUS TENTaCITYSCAPEbAT DUSK",
    "aCJK RADICAL BAMBOOcBLUEcBOLT OF CLOTHcBONEcBOXcBRUSH ONEdTWOcC-SIMPLIFIED BIRDdCARTdDRAGON",
    "dEATdEVENdFISHdFLYdFROGdGATEdGOLDdHORSEdLEAFdLONGdSALTdSEEdSHELLdSILKdSPEECHdTANNED LEATHER",
    "dTOOTHdTURTLEdWINDcCHOKEcCITYcCIVILIANcCLIFFcCLOTHEScCOWcDEATHcDIVINATIONcDOGcEAT ONEdTHREE",
    "dTWOcEWEcEYEcFIREcFOOTcGHOSTcGRASS ONEdTHREEdTWOcHANDcHEADcHEART ONEdTWOcHORN",
    "cJ-SIMPLIFIED DRAGONdEVENdTOOTHdTURTLEcJADEcKNIFE ONEdTWOcLAME FOURdONEdTHREEdTWOcLONG ONE",
    "dTWOcMEATcMESHcMOONcMORTARcMOTHERcMOUND ONEdTWOcNET FOURdONEdTHREEdTWOcOLDcPAW ONEdTWO",
    "cPERSONcRAINcRAMcRAPcREPEATcSEALcSECOND ONEdTHREEdTWOcSHEEPcSILKcSIMPLIFIED HALF TREE TRUNK",
    "dHORNdWALKdWHEATdYELLOWcSMALL ONEdTWOcSNAKEcSNOUT ONEdTWOcSPIRIT ONEdTWOcSUNcTABLEcTHREAD",
    "cTIGERcTURTLEcWALK ONEdTWOcWATER ONEdTWOcWEST ONEdTWObSTROKE BXGcDcHcHGcHPcHPWGcHXWGcHZcHZG",
    "cHZTcHZWcHZWGcHZZcHZZPcHZZZcHZZZGcNcPcPDcPGcPZcQcScSGcSPcSTcSWcSWGcSWZcSZcSZWGcSZZcTcTNcWG",
    "cXGaCLAMSHELL MOBILE PHONEaCLAPPER BOARDaCLAPPING HANDS SIGNaCLASSICAL BUILDING",
    "aCLEAR SCREEN SYMBOLaCLINKING BEER MUGSbGLASSESaCLIPBOARDaCLOCK FACE EIGHT OCLOCK",
    "cEIGHT-THIRTYcELEVEN OCLOCKcELEVEN-THIRTYcFIVE OCLOCKcFIVE-THIRTYcFOUR OCLOCKcFOUR-THIRTY",
    "cNINE OCLOCKcNINE-THIRTYcONE OCLOCKcONE-THIRTYcSEVEN OCLOCKcSEVEN-THIRTYcSIX OCLOCK",
    "cSIX-THIRTYcTEN OCLOCKcTEN-THIRTYcTHREE OCLOCKcTHREE-THIRTYcTWELVE OCLOCKcTWELVE-THIRTY",
    "cTWO OCLOCKcTWO-THIRTYaCLOCKWISE CLOSED CIRCLE ARROWbCONTOUR INTEGRAL",
    "bDOWNWARDS AND UPWARDS OPEN CIRCLE ARROWSbGAPPED CIRCLE ARROWbINTEGRALbOPEN CIRCLE ARROW",
    "bRIGHT AND LEFT SEMICIRCLE ARROWSbRIGHTWARDS AND LEFTWARDS OPEN CIRCLE ARROWS",
    "hWITH CIRCLED ONE OVERLAYbTOP SEMICIRCLE ARROWbTRIANGLE-HEADED OPEN CIRCLE ARROWaCLOSE UP",
    "aCLOSED BOOKbINTERSECTION WITH SERIFSbLOCK WITH KEYbMAILBOX WITH LOWERED FLAGdRAISED FLAG",
    "bSUBSETcOR EQUAL TObSUPERSETcOR EQUAL TObUMBRELLAbUNION WITH SERIFSeAND SMASH PRODUCTaCLOUD",
    "bWITH LIGHTNINGcRAINcSNOWcTORNADOaCLOWN FACEaCOATaCOCKROACHaCOCKTAIL GLASSaCOCONUTaCOFFIN",
    "aCOINaCOLLISION SYMBOLaCOLONbEQUALSbSIGNaCOMBINING ACUTE ACCENTdBELOWcTONE MARK",
    "bACUTE-GRAVE-ACUTEbACUTE-MACRONbALMOST EQUAL TO ABOVEeBELOWbANNUITY SYMBOL",
    "bANTICLOCKWISE ARROW ABOVEcRING OVERLAYbASTERISK ABOVEcBELOWbBINDU BELOWbBREVEcBELOW",
    "bBREVE-MACRONbBRIDGE ABOVEcBELOWbCANDRABINDUbCARONcBELOWbCEDILLAbCIRCUMFLEX ACCENTdBELOW",
    "bCLOCKWISE ARROW ABOVEcRING OVERLAYbCOMMA ABOVEdRIGHTcBELOWbCONJOINING MACRONdBELOW",
    "bCYRILLIC DASIA PNEUMATAcHUNDRED MILLIONS SIGNdTHOUSANDS SIGNcKAVYKAcLETTER AdBEdBIG YUSdCHE",
    "dDEdDJERVdEFdELdEMdENdERdESdES-TEdFITAdGHEdHAdHARD SIGNdIdIEdIOTIFIED AeBIG YUSeEdKA",
    "dLITTLE YUSdMONOGRAPH UKdOdOMEGAdPEdSHAdSHCHAdSOFT SIGNdTEdTSEdUdUKRAINIAN IEdVEdYATdYERUdYI",
    "dYUdZEdZHEcMILLIONS SIGNcPALATALIZATIONcPAYEROKcPOKRYTIEcPSILI PNEUMATAcTEN MILLIONS SIGN",
    "cTHOUSAND MILLIONS SIGNcTITLOdLEFT HALFdRIGHT HALFcVZMETbDELETION MARK",
    "bDEVANAGARI DIGIT EIGHTdFIVEdFOURdNINEdONEdSEVENdSIXdTHREEdTWOdZEROcLETTER AdKAdNAdPAdRAdU",
    "dVIcSIGN AVAGRAHAbDIAERESIScBELOWbDIAERESIS-RINGbDOT ABOVEdLEFTdRIGHTcBELOWdLEFT",
    "bDOTTED ACUTE ACCENTcGRAVE ACCENTbDOUBLE ACUTE ACCENTcBREVEdBELOWcCIRCUMFLEX ABOVE",
    "cGRAVE ACCENTcINVERTED BREVEeBELOWcLOW LINEcMACRONdBELOWcOPEN MARK BELOWcOVERLINE",
    "cPARENTHESES ABOVEcPLUS SIGN ABOVEeBELOWcRIGHTWARDS ARROW BELOWcRING BELOWcTILDEdLEFT HALF",
    "dRIGHT HALFcVERTICAL LINE ABOVEeBELOWdSTROKE OVERLAYbDOUBLED CIRCUMFLEX ACCENT",
    "bDOWN TACK BELOWbDOWNWARDS ARROWbENCLOSING CIRCLEdBACKSLASHcDIAMONDcKEYCAPcSCREENcSQUARE",
    "cUPWARD POINTING TRIANGLEbEQUALS SIGN BELOWbFERMATAbFOUR DOTS ABOVEbGLAGOLITIC LETTER AZU",
    "dBIG YUSdBUKYdCHRIVIdDJERVIdDOBROdFITAdFRITUdGLAGOLIdHERUdIdINITIAL IZHEdIOTATED BIG YUS",
    "eSMALL YUSdIZHEdKAKOdLJUDIJEdMYSLITEdNASHIdONUdPOKOJIdRITSIdSHAdSHTAdSLOVOdSMALL YUSdTSI",
    "dTVRIDOdUKUdVEDEdYATIdYERIdYERUdYESTUdYOdYUdZEMLJAdZHIVETEbGRANTHA DIGIT FIVEdFOURdONEdSIX",
    "dTHREEdTWOdZEROcLETTER AdKAdNAdPAdVIbGRAPHEME JOINERbGRAVE ACCENTdBELOWcTONE MARK",
    "bGRAVE-ACUTE-GRAVEbGRAVE-MACRONbGREEK DIALYTIKA TONOScKORONIScMUSICAL PENTASEMEdTETRASEME",
    "dTRISEMEcPERISPOMENIcYPOGEGRAMMENIbHOMOTHETIC ABOVEbHOOK ABOVEbHORNbINFINITYbINVERTED BREVE",
    "dBELOWcBRIDGE BELOWcDOUBLE ARCH ABOVEeBELOWbIS BELOW",
    "bKATAKANA-HIRAGANA SEMI-VOICED SOUND MARKcVOICED SOUND MARKbKAVYKA ABOVE LEFTdRIGHT",
    "bLATIN LETTER SMALL CAPITAL GfLfMfNfRcSMALL LETTER AfWITH DIAERESISeAEeALPHAeAOeAVeBeBETAeC",
    "fCEDILLAeDeEeESHeETHeFeFLATTENED OPEN A ABOVEeGeHeIeINSULAR DfGfRfTeKeL",
    "fWITH DOUBLE MIDDLE TILDEeLONG SeMeNeOfWITH DIAERESISgLIGHT CENTRALIZATION STROKEePeRfBELOW",
    "fROTUNDAeSeSCHWAeTeTURNED W BELOWeUfWITH DIAERESISgLIGHT CENTRALIZATION STROKEeVeWfBELOWeXeZ",
    "bLEFT ANGLE ABOVEdBELOWcARROW ABOVEdBELOWcARROWHEAD ABOVEdBELOWcHALF RING ABOVEeBELOW",
    "cHARPOON ABOVEcPARENTHESIS ABOVE LEFTdBELOW LEFTcRIGHT ARROW ABOVEeBELOWcTACK BELOW",
    "bLEFTWARDS ARROW OVERLAYcHARPOON WITH BARB DOWNWARDSbLIGATURE LEFT HALFeBELOWcRIGHT HALF",
    "eBELOWbLIGHT CENTRALIZATION STROKE BELOWbLONG DOUBLE SOLIDUS OVERLAYcSOLIDUS OVERLAY",
    "cSTROKE OVERLAYcVERTICAL LINE OVERLAYbLOW LINEbMACRONcBELOWcLEFT HALFeBELOWcRIGHT HALFeBELOW",
    "bMACRON-ACUTEbMACRON-BREVEbMACRON-GRAVEbMINUS SIGN BELOWbNOT TILDE ABOVEbNUMBER SIGN ABOVE",
    "bOGONEKcABOVEbOLD PERMIC LETTER ANeDOIeNENOEeSIIeZATAbOPEN MARK BELOWbOVERLINE",
    "bPALATALIZED HOOK BELOWbPARENTHESES ABOVEcBELOWcOVERLAYbPLUS SIGN ABOVEdBELOW",
    "bRETROFLEX HOOK BELOWbREVERSE SOLIDUS OVERLAYbREVERSED COMMA ABOVEbRIGHT ARROW ABOVEdBELOW",
    "cARROWHEAD ABOVEdAND DOWN ARROWHEAD BELOWeUP ARROWHEAD BELOWdBELOWcHALF RING ABOVEeBELOW",
    "cHARPOON ABOVEcPARENTHESIS ABOVE RIGHTdBELOW RIGHTcTACK BELOW",
    "bRIGHTWARDS HARPOON WITH BARB DOWNWARDSbRING ABOVEcBELOWcOVERLAYbSEAGULL BELOW",
    "bSHORT SOLIDUS OVERLAYcSTROKE OVERLAYcVERTICAL LINE OVERLAYbSNAKE BELOWbSQUARE BELOW",
    "cBRACKETS ABOVEbSTRONG CENTRALIZATION STROKE BELOWbSUSPENSION MARKbTHREE DOTS ABOVEbTILDE",
    "cBELOWcLEFT HALF BELOWcOVERLAYcRIGHT HALF BELOWbTRIPLE ACUTE ACCENTcDOTcUNDERDOT",
    "bTURNED COMMA ABOVEbUP TACK ABOVEdBELOWbUPWARDS ARROW BELOWbUR ABOVEbUS ABOVE",
    "bVERTICAL LINE ABOVEdBELOWcTILDEbWIDE BRIDGE ABOVEcINVERTED BRIDGE BELOWbWIGGLY LINE BELOW",
    "bX ABOVEcBELOWbX-X BELOWbZIGZAG ABOVEcBELOWaCOMETaCOMMAaCOMMERCIAL ATbMINUS SIGNaCOMPASS",
    "aCOMPLEMENTaCOMPOSITION SYMBOLaCOMPRESSIONaCONFETTI BALLaCONFOUNDED FACEaCONFUSED FACE",
    "aCONGRUENT WITH DOT ABOVEaCONICAL TAPERaCONJUNCTIONaCONSTRUCTION SIGNbWORKER",
    "aCONTAINS AS MEMBERcNORMAL SUBGROUPeOR EQUAL TObWITH LONG HORIZONTAL STROKEcOVERBAR",
    "cVERTICAL BAR AT END OF HORIZONTAL STROKEaCONTINUOUS UNDERLINE SYMBOLaCONTOUR INTEGRAL",
    "aCONTROL KNOBSbSEQUENCE INTRODUCERaCONVENIENCE STOREaCOOKED RICEaCOOKIEaCOOKING",
    "aCOPTIC CAPITAL LETTER AKHMIMIC KHEIdALFAdBOHAIRIC KHEIdCROSSED SHEIdCRYPTOGRAMMIC EIE",
    "eGANGIAeNIeSHEIdDALDAdDEIdDIALECT-P ALEFeHORIeKAPAeNIdEIEdFEIdFIdGAMMAdGANGIAdHATEdHORI",
    "dIAUDAdKAPAdKHEIdKHIdKSIdL-SHAPED HAdLAULAdMIdNIdOdOLD COPTIC AINfDJAfESHfGANGIAfHAfHATfHEI",
    "fHORIfOOUfSHEIfSHIMAeNUBIAN NGIfNYIfSHIMAfWAUdOOUdPIdPSIdROdSAMPIdSHEIdSHIMAdSIMAdSOUdTAU",
    "dTHETHEdUAdVIDAdZATAbCOMBINING NI ABOVEcSPIRITUS ASPERdLENISbEPACT DIGIT EIGHTdFIVEdFOUR",
    "dNINEdONEdSEVENdSIXdTHREEdTWOcNUMBER EIGHT HUNDREDdEIGHTYdFIFTYdFIVE HUNDREDdFORTY",
    "dFOUR HUNDREDdNINE HUNDREDdNINETYdONE HUNDREDdSEVEN HUNDREDdSEVENTYdSIX HUNDREDdSIXTYdTEN",
    "dTHIRTYdTHREE HUNDREDdTWENTYdTWO HUNDREDcTHOUSANDS MARKbFRACTION ONE HALFbFULL STOP",
    "bMORPHOLOGICAL DIVIDERbOLD NUBIAN DIRECT QUESTION MARKdFULL STOPdINDIRECT QUESTION MARK",
    "dVERSE DIVIDERbSMALL LETTER AKHMIMIC KHEIdALFAdBOHAIRIC KHEIdCROSSED SHEIdCRYPTOGRAMMIC EIE",
    "eGANGIAeNIeSHEIdDALDAdDEIdDIALECT-P ALEFeHORIeKAPAeNIdEIEdFEIdFIdGAMMAdGANGIAdHATEdHORI",
    "dIAUDAdKAPAdKHEIdKHIdKSIdL-SHAPED HAdLAULAdMIdNIdOdOLD COPTIC AINfDJAfESHfGANGIAfHAfHATfHEI",
    "fHORIfOOUfSHEIfSHIMAeNUBIAN NGIfNYIfSHIMAfWAUdOOUdPIdPSIdROdSAMPIdSHEIdSHIMAdSIMAdSOUdTAU",
    "dTHETHEdUAdVIDAdZATAbSYMBOL KAIcKHI ROcMI ROcPI ROcSHIMA SIMAcSTAUROScTAU ROaCOPYLEFT SYMBOL",
    "aCOPYRIGHT SIGNaCORALaCORNISH VERSE DIVIDERaCORRESPONDS TOaCOUCH AND LAMPaCOUNTERBORE",
    "aCOUNTERSINKaCOUNTING ROD TENS DIGIT EIGHTeFIVEeFOUReNINEeONEeSEVENeSIXeTHREEeTWO",
    "cUNIT DIGIT EIGHTeFIVEeFOUReNINEeONEeSEVENeSIXeTHREEeTWOaCOUPLE WITH HEARTaCOWbFACEaCRaCRAB",
    "aCREDIT CARDaCRESCENT MOONaCRICKETbBAT AND BALLaCROCODILEaCROISSANTaCROSS MARKbOF JERUSALEM",
    "cLORRAINEbPATTY WITH LEFT CROSSBARdRIGHT CROSSBARbPOMMEEcWITH HALF-CIRCLE BELOW",
    "aCROSSED FLAGSbNEGATIVE SQUARED LATIN CAPITAL LETTER PbSWORDSaCROSSING LANESaCROWNaCRUTCH",
    "aCRUZEIRO SIGNaCRYING CAT FACEbFACEaCRYSTAL BALLaCSIaCUBE ROOTaCUCUMBER",
    "aCUNEIFORM NUMERIC SIGN EIGHT ASHeDISHeGESH2eSHAR2eUfVARIANT FORMeVARIANT FORM USSUgUSSU3",
    "dELAMITE FIFTYeFORTYeONE THIRDeTWO THIRDSdFIVE ASHfTENUeBAN2fVARIANT FORMeBURUeDISHeGESH2",
    "eGESHUeSHAR2eSHARUeSIXTHS DISHeUfVARIANT FORMdFOUR ASHfTENUeBAN2fVARIANT FORMeBURUeDISH",
    "eGESH2eGESHUeSHAR2eSHARUeUfVARIANT FORMeVARIANT FORM LIMMUhAhBgLIMMU4dNIGIDAESHdNIGIDAMIN",
    "dNINE ASHeDISHeGESH2eSHAR2eUfVARIANT FORMeVARIANT FORM ILIMMUhAgILIMMU3gILIMMU4",
    "dOLD ASSYRIAN ONE QUARTERgSIXTHdONE BAN2eBURUeEIGHTH ASHeESHE3eGESH2eGESHUeHALF GUR",
    "eQUARTER ASHfGUReSHARUeTHIRD DISHfVARIANT FORM AdSEVEN ASHeDISHeGESH2eSHAR2eUfVARIANT FORM",
    "eVARIANT FORM IMIN AhBgIMIN3dSHAR2 TIMES GAL PLUS DISHhMINdSIX ASHfTENUeDISHeGESH2eSHAR2eU",
    "fVARIANT FORMeVARIANT FORM ASH9dTHREE ASHfTENUeBAN2eBURUfVARIANT FORMeDISHeGESH2eGESHUeSHAR2",
    "fVARIANT FORMeSHARUfVARIANT FORMeVARIANT FORM ESH16gESH21dTWO ASHfTENUeBAN2eBURUeESHE3eGESH2",
    "eGESHUeSHAR2eSHARUeTHIRDS DISHfVARIANT FORM AbPUNCTUATION SIGN DIAGONAL COLONeQUADCOLON",
    "eTRICOLONdOLD ASSYRIAN WORD DIVIDERdVERTICAL COLONbSIGN AdTIMES AeBADeGAN2 TENUeHAeIGI",
    "eLAGAR GUNUeMUSHeSAGcA2cABdGUNUdTIMES ASH2eDUN3 GUNUeGALeGAN2 TENUeHAeIGI GUNUeIMINeLAGAB",
    "eNUNfTENUeSHESHeSHU2eU PLUS U PLUS UcAB2dTIMES AeBALAGeGAN2 TENUeME PLUS ENeSHA3eTAK4cAD",
    "dTIMES ESH2cAKdTIMES ERIN2eSHITA PLUS GISHcALdTIMES ALeDIM2eGISHeHAeKAD3eKIeSHEeUSHcALAN",
    "cALEPHcAMARdTIMES KUGeSHEcANdOVER ANdPLUS NAGA OPPOSING AN PLUS NAGAfSQUAREDdTHREE TIMES",
    "cANSHEcAPINcARADdTIMES KURcARKABcASAL2cASHdKABA TENUdOVER ASH OVER ASH",
    "hCROSSING ASH OVER ASH OVER ASHfTUG2 OVER TUG2 TUG2 OVER TUG2 PAPdZIDA TENUcASH2cASHGABcBA",
    "cBADdTIMES DISH TENUcBAG3cBAHAR2dTIMES AB2eNIeZAcBALdOVER BALcBALAGcBARcBARA2cBIdTIMES AeGAR",
    "eIGI GUNUcBUdCROSSING BUdOVER BU ABfTIMES NA2fUNcBULUGdOVER BULUGcBURcBUR2cDAdTIMES TAK4cDAG",
    "dKISIM5 TIMES A PLUS MASHfAMARfBALAGfBIfGAgPLUS MASHfGIfGIR2fGUDfHAfIRgPLUS LUfKAKfLAfLU",
    "gPLUS MASH2fLUMfNEfPAP PLUS PAPfSIfTAK4fU2 PLUS GIR2hMASHfUSHdTIMES KURcDAG3cDAMcDARcDARA3",
    "cDARA4cDIcDIBcDIMdTIMES IGIeSHEeU U UcDIM2dTIMES UDcDINdKASKAL U GUNU DISHcDISHdPLUS SHUcDU",
    "dGUNUdOVER DUdSHESHIGcDUBdTIMES ESH2eSHEcDUB2cDUGdTIMES ANSHEeASHfAT LEFTeDINeDUNeERIN2eGA",
    "eGIeGIR2 GUNUeGISHeHAeHIeIGI GUNUeKASKALeKUReKUSHU2fPLUS KASKALeLAK-020eLAMfTIMES KUR",
    "eLUH PLUS GISHeMASHeMESeMIeNIePIeSHEeSI GUNUcDUGUDcDUHcDUNcDUN3dGUNUeGUNUcDUN4cDUR2cE",
    "dOVER E NUN OVER NUNdTIMES PAPcE2dTIMES A PLUS HA PLUS DAeGAReKUReMIePAPeSALeSHEeUcEDINcEGIR",
    "cELcENdCROSSING ENdOPPOSING ENdSQUAREDdTIMES GAN2fTENUeMEcERENcERIN2dXcESH2dCROSSING ESH2",
    "cEZENdSHESHIG TIMES ASHfHIfIGI GUNUfLAfLALfMEfMESfSUdTIMES AfPLUS LALhTIMES LALeANeBAD",
    "eDUN3 GUNUgGUNUeGUDeHAfGUNUeIGI GUNUeKASKALfSQUAREDeKU3eLAeLAL TIMES LALeLIeLUeSHEeSUeU2eUD",
    "cGAdGUNUcGA2dOVER GA2dTIMES A PLUS DA PLUS HAgHAgIGIeAB2 TENU PLUS TABeANfPLUS KAK PLUS A",
    "eASHeASH2fPLUS GALeBADeBAHAR2eBAR PLUS RAeBURfPLUS RAeDAeDIeDIM GUNUfTIMES SHEeDUB",
    "eDUG TIMES IGI GUNUgKASKALeELfPLUS LAeENfTIMES GAN2 TENUeERENeGAeGAN2 TENUeGARfPLUS DIgNEeGI",
    "eGI4fPLUS AeGIR2 PLUS SUeHA PLUS AgLU PLUS ESH2eHALfPLUS LAeHI PLUS LIeHUB2eIGI GUNU",
    "eISH PLUS HU PLUS ASHeKAKeKASKALeKIDfPLUS LALeKU3 PLUS ANeKUSHU2 PLUS KASKALeLAeLAM",
    "fTIMES KUReLUHeME PLUS ENeMIeMUSHeNEfPLUS E2gGIeNUNfOVER NUNePAeSALeSAReSHEfPLUS TUReSHID",
    "eSHIMeSUMeTAK4eUeUDfPLUS DUeZIZ2cGABAdCROSSING GABAdROTATED NINETY DEGREEScGAD",
    "dOVER GAD GAR OVER GARcGALdGAD OVER GAD GAR OVER GARcGALAMcGAMcGANcGAN2dCROSSING GAN2",
    "dOVER GAN2dTENUcGARcGAR3cGASHANcGE22cGESHTINdTIMES KUReUcGIdCROSSING GIdTIMES EeUcGI4",
    "dCROSSING GI4dOVER GI4cGIDIMcGIGcGIR2dGUNUcGIR3dTIMES A PLUS IGIeGAN2 TENUeIGIeLU PLUS IGI",
    "ePAcGISALcGISHdCROSSING GISHdTENUdTIMES BADeGISH CROSSING GISHeTAK4cGUdCROSSING GUcGU2dGUNU",
    "dTIMES IGI GUNUeKAKfTIMES IGI GUNUeNUNeSAL PLUS TUG2cGUDdOVER GUD LUGALdPLUS GISH TIMES TAK4",
    "dTIMES A PLUS KUReKURcGULcGUMdTIMES SHEcGURcGUR7cGURUNcGURUSHcHAdGUNUdTENUeGUNUcHALcHI",
    "dTIMES ASHfOVER HI TIMES ASHeASH2eBADeDISHeGADeKINeNUNeSHEeUcHUcHUB2dTIMES ANeHALeKASKAL",
    "eLISHeUDcHUL2cHUSHcIdAcIBcIDIMdOVER IDIM BURfSQUAREDcIGcIGIdDIBdGUNU",
    "dOVER IGI SHIR OVER SHIR UD OVER UDdRIcILdTIMES GAN2 TENUcIL2cIMdCROSSING IMdOPPOSING IM",
    "dSQUAREDdTIMES TAK4cIMINcINcIRcISHcKAdTIMES AeADfPLUS KU3eANSHEeASH2eASH3eBADeBALAGeBAReBI",
    "eBUeERIN2eESH2eGAeGALeGAN2 TENUeGARfPLUS SHA3 PLUS AeGIeGIR2eGISHfCROSSING GISHfPLUS SAReGU",
    "eGUDeGUR7eHI TIMES ASH2eIGIeIMeKAeKAKeKIeKIDeLIeLUeLUMeMEfPLUS DUgGIgTEeMIfPLUS NUNUZeNEeNUN",
    "ePAePIeRUeSAeSAReSHAeSHEeSHIDeSHUeSHULeSIGeSUHUReTAReTUeUfU UeU2eUDeUMUM TIMES PAeUReUR2eUSH",
    "eZIcKA2dCROSSING KA2cKABcKAD2cKAD3cKAD4cKAD5dOVER KAD5cKAKdTIMES IGI GUNUcKALdCROSSING KAL",
    "dTIMES BADcKAM2cKAM4cKAP ELAMITEcKASKALdLAGAB TIMES U OVER LAGAB TIMES U",
    "dOVER KASKAL LAGAB TIMES U OVER LAGAB TIMES UcKESH2cKIdTIMES BADeUeUDcKIDcKINcKISALcKISH",
    "cKISIM5dOVER KISIM5cKUdOVER HI TIMES ASH2 KU OVER HI TIMES ASH2cKU3cKU4dVARIANT FORMcKU7cKUL",
    "dGUNUcKUNcKURdOPPOSING KURcKUSHU2cKWU318cLAcLAGABdSQUAREDdTIMES AfPLUS DA PLUS HAgGARgLALeAL",
    "eANeASH ZIDA TENUeBADeBIeDAReENeGAeGAReGIeGUDfPLUS GUDeHAeHALeHI TIMES NUNeIGI GUNUeIM",
    "fPLUS HAgLUeKIeKINeKU3eKULfPLUS HI PLUS AeLAGABeLISHeLUeLULeMEfPLUS ENeMUSHeNEeSHE PLUS SUM",
    "eSHITA PLUS GISH PLUS ERIN2hTENUeSHU2fPLUS SHU2eSUMeTAGeTAK4eTE PLUS A PLUS SU PLUS NAeU",
    "fPLUS AgU PLUS UeU2 PLUS ASHeUDeUSHeZU OVER ZUcLAGARdGUNUeOVER LAGAR GUNU SHEdTIMES SHE",
    "fPLUS SUMcLAHSHUcLAK-003cLAK-021cLAK-025cLAK-030cLAK-050cLAK-051cLAK-062",
    "cLAK-079 OVER LAK-079 GUNUcLAK-080cLAK-081 OVER LAK-081cLAK-092cLAK-130cLAK-142cLAK-210",
    "cLAK-219cLAK-220cLAK-225cLAK-228cLAK-238cLAK-265cLAK-266cLAK-343cLAK-347cLAK-348cLAK-383",
    "cLAK-384cLAK-390cLAK-441cLAK-449dTIMES GUeIGIePAP PLUS LU3gPAP PLUS LU3eU2 PLUS BAcLAK-450",
    "cLAK-457cLAK-470cLAK-483cLAK-490cLAK-492cLAK-493cLAK-495cLAK-550cLAK-608cLAK-617dTIMES ASH",
    "eBADeDUN3 GUNU GUNUeKU3eLAeTAReTEeU2eUDeURUDAcLAK-636cLAK-648dTIMES DUBeGAeIGIfGUNUeNI",
    "ePAP PLUS PAP PLUS LU3eSHESH PLUS KIeUDeURUDAcLAK-724cLAK-749cLALdTIMES LALcLAMdTIMES KUR",
    "fPLUS RUcLIcLILcLIMMU2cLISHcLUdTIMES BADcLU2dCROSSING LU2dGUNU TIMES ASHdOPPOSING LU2",
    "dSHESHIGeTIMES BADdSQUAREDdTENUdTIMES ALeBADeDISHeESH2fPLUS LALfTENUeGAN2 TENUeHAL",
    "eHI TIMES BADeIMeKAD2eKAD3fPLUS ASHeKIeLA PLUS ASHeLAGABeME PLUS ENeNEeNUePAP",
    "fPLUS PAP PLUS LU3eSHUeSI PLUS ASHeSIK2 PLUS BUeTAK4eTUG2cLU3cLUGALdOPPOSING LUGAL",
    "dOVER LUGALdSHESHIGcLUHcLULcLUMdOVER LUMfGAR OVER GARcMAdGUNUdTIMES TAK4cMA2cMAHcMARcMASH",
    "cMASH2cMEcMEScMESHcMIdPLUS ZA7cMINcMUdOVER MUcMUGdGUNUcMUNSUBcMURGU2cMUSHdCROSSING MUSH",
    "dOVER MUSHfTIMES A PLUS NAgGAgKAKdTIMES AeKUReZAcMUSH3dGUNUdTIMES AfPLUS DIeDIeZAcNAcNA2cNA4",
    "cNAGAdINVERTEDdOPPOSING NAGAdTIMES SHU TENUcNAGARcNAMdNUTILLUcNAM2cNEdSHESHIGdTIMES AeUDcNI",
    "dTIMES EcNI2cNIMdTIMES GAN2 TENUeGAR PLUS GAN2 TENUcNINcNIN9cNINDA2dTIMES ANeASHfPLUS ASH",
    "eBALeDIM GUNUeGIeGISHeGUDeGULeHIeKESH2eLAK-050eMASHeME PLUS GAN2 TENUeNEeNUNePAP PLUS PAP",
    "eSHEfPLUS A ANgASHhPLUS ASHeUfPLUS UeU2 PLUS ASHeURUDAeUSHcNISAGcNUcNU11",
    "dOVER NU11 BUR OVER BURdROTATED NINETY DEGREESdTENUcNUNdCROSSING NUNfLAGAR OVER LAGAR",
    "dLAGAR TIMES GARfMASHfSALgOVER NUN LAGAR TIMES SALfUSHdOVER NUNdTENUcNUNUZdAB2 TIMES ASHGAB",
    "fBIfDUGfGUDfIGI GUNUfKAD3fLAfNEfSILA3fU2dKISIM5 TIMES BIgUcPAcPADcPANcPAPcPESH2dASTERISKcPI",
    "dCROSSING PIdTIMES AeABeBIeBUeEeIeIBeUeU2cPIR2cPIRIGdOPPOSING PIRIGdTIMES KALeUDeZAcRAcRAB",
    "cRIcRUcSAcSAGdGUNUeTIMES HAdNUTILLUdOVER SAGdTIMES AeDUeDUBeENeHAeIGI GUNUeKAKeKUReLUMeMI",
    "eNUNeSALeSHE AT LEFTeSHIDeTABeTAK4eU2eUBeUMeUReUSHcSALdLAGAB TIMES ASH2cSANGA2cSARcSHAcSHA3",
    "dTIMES AeBADeGISHeNEeSHU2eTUReUfPLUS AcSHA6dTENUcSHAB6cSHAR2cSHEdHUdOVER SHE",
    "fGAD OVER GAD GAR OVER GARfTAB OVER TAB GAR OVER GARdPLUS HUB2eNAM2eSARcSHEG9cSHENcSHESH",
    "cSHESH2cSHESHLAMcSHIDdTIMES AeIMcSHIMdTIMES AeBALeBULUGeDINeGAReIGIfGUNUeKUSHU2eLULeMUGeSAL",
    "cSHINIGcSHIRdOVER SHIR BUR OVER BURdTENUcSHITAcSHUdOVER INVERTED SHUcSHU2dPLUS DUG TIMES NI",
    "eE2 TIMES ANcSHUBURcSIdGUNUdTIMES TAK4cSIGcSIG4dOVER SIG4 SHU2cSIK2cSILA3cSUdOVER SUcSUD",
    "cSUD2cSUHURcSUMcSUMASHcSURcSUR9cTAdASTERISKdGUNUdTIMES HIeMIcTAB",
    "dOVER TAB NI OVER NI DISH OVER DISHdSQUAREDcTAGdTIMES BIeGUDeSHEeSHUeTUG2eUDcTAK4dPLUS SAG",
    "cTARcTEdGUNUcTIdTENUcTI2cTILcTIRdOVER TIRfGAD OVER GAD GAR OVER GARdTIMES TAK4cTUcTUG2cTUK",
    "cTUMdTIMES GAN2 TENUeTHREE DISHcTURdOVER TUR ZA OVER ZAcUdGUDdOVER U PA OVER PA GAR OVER GAR",
    "fSUR OVER SURfU REVERSED OVER U REVERSEDdUeUcU2cUBcUDdGUNUdKUSHU2dSHESHIGeTIMES BAD",
    "dTIMES BADeMIeU PLUS U PLUS UjGUNUcUDUGcUMdTIMES LAGABeMEfPLUS DAeSHA3eUcUMBINcUMUM",
    "dTIMES KASKALePAcUNdGUNUcURdCROSSING URdSHESHIGcUR2dINVERTEDdTIMES A PLUS HAgNAeALeHAeNUNeU2",
    "fPLUS ASHgBIeUDcUR4cURIcURI3cURUdTIMES AeASHGABeBAReDARA3eDUNeGAeGALeGAN2 TENUeGAReGUeHAeIGI",
    "eIMeISHeKIeLAK-668eLU3eLUMeMINePAeSHEeSIG4eTUeU PLUS GUDeUDeURUDAcURUDAdTIMES UcUSHdTIMES A",
    "eKUeKUReTAK4cUSH2cUSHUMXcUSHXcUTUKIcUZ3dTIMES KASKALcUZUcZAdSQUARED TIMES KURdTENUcZA7cZAG",
    "cZAMXcZE2cZIdOVER ZIcZI3cZIBdKABA TENUcZIGcZIZ2cZUdOVER ZU PLUS SARcZU5dTIMES A",
    "eTHREE DISH TENUcZUBURcZUMaCUP ON BLACK SQUAREbWITH STRAWaCUPCAKEaCUPIDOaCURLING STONE",
    "aCURLY BRACKET EXTENSIONbLOGICAL ANDcORbLOOPaCURRENCY EXCHANGEbSIGNaCURRY AND RICE",
    "aCURVED STEM PARAGRAPH SIGN ORNAMENTaCUSTARDaCUSTOMSaCUT OF MEATaCYCLONEaCYLINDRICITY",
    "aCYPRIOT SYLLABLE AcEcIcJAcJOcKAcKEcKIcKOcKUcLAcLEcLIcLOcLUcMAcMEcMIcMOcMUcNAcNEcNIcNOcNUcO",
    "cPAcPEcPIcPOcPUcRAcREcRIcROcRUcSAcSEcSIcSOcSUcTAcTEcTIcTOcTUcUcWAcWEcWIcWOcXAcXEcZAcZO",
    "aCYPRO-MINOAN SIGN CM001cCM002cCM004cCM005cCM006cCM007cCM008cCM009cCM010cCM011cCM012cCM012B",
    "cCM013cCM015cCM017cCM019cCM021cCM023cCM024cCM025cCM026cCM027cCM028cCM029cCM030cCM033cCM034",
    "cCM035cCM036cCM037cCM038cCM039cCM040cCM041cCM044cCM046cCM047cCM049cCM050cCM051cCM052cCM053",
    "cCM054cCM055cCM056cCM058cCM059cCM060cCM061cCM062cCM063cCM064cCM066cCM067cCM068cCM069cCM070",
    "cCM071cCM072cCM073cCM074cCM075cCM075BcCM076cCM078cCM079cCM080cCM081cCM082cCM083cCM084cCM085",
    "cCM086cCM087cCM088cCM089cCM090cCM091cCM092cCM094cCM095cCM096cCM097cCM098cCM099cCM100cCM101",
    "cCM102cCM103cCM104cCM105cCM107cCM108cCM109cCM110cCM112cCM114cCM301cCM302",
    "aCYRILLIC CAPITAL LETTER AeWITH BREVEfDIAERESISdABKHASIAN CHEfWITH DESCENDEReDZEeHAdALEUT KA",
    "dBARRED OfWITH DIAERESISdBASHKIR KAdBEdBIG YUSdBINOCULAR OdBLENDED YUSdBROAD OMEGA",
    "dBYELORUSSIAN-UKRAINIAN IdCCHEdCHEeWITH DESCENDERfDIAERESISfVERTICAL STROKE",
    "dCLOSED LITTLE YUSdCROSSED OdDCHEdDEdDJEdDJERVdDOUBLE MONOCULAR OeOdDWEdDZEdDZELOdDZHEdDZWE",
    "dDZZEdDZZHEdEeWITH DIAERESISdEFdELeWITH DESCENDERfHOOKfMIDDLE HOOKfTAILdEMeWITH TAILdEN",
    "eWITH DESCENDERfHOOKfLEFT HOOKfMIDDLE HOOKfTAILdEReWITH TICKdESeWITH DESCENDERdFITAdGHE",
    "eWITH DESCENDERfMIDDLE HOOKfSTROKEgAND HOOKfUPTURNdGJEdHAeWITH DESCENDERfHOOKfSTROKE",
    "dHARD SIGNdHWEdIeWITH DIAERESISfGRAVEfMACRONdIEeWITH BREVEfGRAVEdIOdIOTAdIOTIFIED AeBIG YUS",
    "eCLOSED LITTLE YUSeEeLITTLE YUSeYATdIZHITSAeWITH DOUBLE GRAVE ACCENTdJEdKAeWITH DESCENDER",
    "fHOOKfSTROKEfVERTICAL STROKEdKHAKASSIAN CHEdKJEdKOMI DEeDJEeDZJEeLJEeNJEeSJEeTJEeZJEdKOPPA",
    "dKSIdLHAdLITTLE YUSdLJEdMONOCULAR OdMONOGRAPH UKdNEUTRAL YERdNJEdOeWITH DIAERESISdOMEGA",
    "eWITH TITLOdOTdPEeWITH DESCENDERfMIDDLE HOOKdPSIdQAdREVERSED DZEeTSEeYUeZEdRHAdROUND OMEGA",
    "dSCHWAeWITH DIAERESISdSEMISOFT SIGNdSHAdSHCHAdSHHAeWITH DESCENDERdSHORT IfWITH TAILeUdSHWE",
    "dSOFT DEeELeEMeSIGNdSTRAIGHT UfWITH STROKEdTCHEdTEeWITH DESCENDERfMIDDLE HOOKdTSEdTSHEdTSSE",
    "dTSWEdTWEdUeWITH DIAERESISfDOUBLE ACUTEfMACRONdUKdUKRAINIAN IEdVEdWEdYAdYAEdYATdYERU",
    "eWITH BACK YERfDIAERESISdYIdYNdYUdZEeWITH DESCENDERfDIAERESISdZEMLYAdZHEeWITH BREVE",
    "fDESCENDERfDIAERESISdZHWEcLIGATURE A IEdEN GHEdTE TSEbKAVYKAbLETTER MULTIOCULAR OcPALOCHKA",
    "cSMALL CAPITAL ELbPAYEROKbSMALL LETTER AeWITH BREVEfDIAERESISdABKHASIAN CHEfWITH DESCENDER",
    "eDZEeHAdALEUT KAdBARRED OfWITH DIAERESISdBASHKIR KAdBEdBIG YUSdBINOCULAR OdBLENDED YUS",
    "dBROAD OMEGAdBYELORUSSIAN-UKRAINIAN IdCCHEdCHEeWITH DESCENDERfDIAERESISfVERTICAL STROKE",
    "dCLOSED LITTLE YUSdCROSSED OdDCHEdDEdDJEdDJERVdDOUBLE MONOCULAR OeOdDWEdDZEdDZELOdDZHEdDZWE",
    "dDZZEdDZZHEdEeWITH DIAERESISdEFdELeWITH DESCENDERfHOOKfMIDDLE HOOKfTAILdEMeWITH TAILdEN",
    "eWITH DESCENDERfHOOKfLEFT HOOKfMIDDLE HOOKfTAILdEReWITH TICKdESeWITH DESCENDERdFITAdGHE",
    "eWITH DESCENDERfMIDDLE HOOKfSTROKEgAND HOOKfUPTURNdGJEdHAeWITH DESCENDERfHOOKfSTROKE",
    "dHARD SIGNdHWEdIeWITH DIAERESISfGRAVEfMACRONdIEeWITH BREVEfGRAVEdIOdIOTAdIOTIFIED AeBIG YUS",
    "eCLOSED LITTLE YUSeEeLITTLE YUSeYATdIZHITSAeWITH DOUBLE GRAVE ACCENTdJEdKAeWITH DESCENDER",
    "fHOOKfSTROKEfVERTICAL STROKEdKHAKASSIAN CHEdKJEdKOMI DEeDJEeDZJEeLJEeNJEeSJEeTJEeZJEdKOPPA",
    "dKSIdLHAdLITTLE YUSdLJEdLONG-LEGGED DEdMONOCULAR OdMONOGRAPH UKdNARROW OdNEUTRAL YERdNJEdO",
    "eWITH DIAERESISdOMEGAeWITH TITLOdOTdPALOCHKAdPEeWITH DESCENDERfMIDDLE HOOKdPSIdQA",
    "dREVERSED DZEeTSEeYUeZEdRHAdROUND OMEGAdROUNDED VEdSCHWAeWITH DIAERESISdSEMISOFT SIGNdSHA",
    "dSHCHAdSHHAeWITH DESCENDERdSHORT IfWITH TAILeUdSHWEdSOFT DEeELeEMeSIGNdSTRAIGHT U",
    "fWITH STROKEdTALL HARD SIGNeTEeYATdTCHEdTEeWITH DESCENDERfMIDDLE HOOKdTHREE-LEGGED TEdTSE",
    "dTSHEdTSSEdTSWEdTWEdUeWITH DIAERESISfDOUBLE ACUTEfMACRONdUKdUKRAINIAN IEdUNBLENDED UKdVEdWE",
    "dWIDE ESdYAdYAEdYATdYERUeWITH BACK YERfDIAERESISdYIdYNdYUdZEeWITH DESCENDERfDIAERESISdZEMLYA",
    "dZHEeWITH BREVEfDESCENDERfDIAERESISdZHWEcLIGATURE A IEdEN GHEdTE TSEbTHOUSANDS SIGN"]

end Jet.Text.CharacterName
