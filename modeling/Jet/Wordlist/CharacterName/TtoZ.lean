/-!
# Names of characters: T to Z

The names that begin with the letters T to Z, in order.  A small letter stands in front of
each name and says how many words the name shares with the one before, `a` for none; only the other
words are given.
-/

namespace Jet.Text.CharacterName

/-- The names that begin with the letters T to Z. -/
def namesTtoZ : List String :=
  ["aT-REXaT-SHIRTaTABaTABLE TENNIS PADDLE AND BALLaTACOaTAG AMPERSANDbAPOSTROPHEbASTERISK",
    "bCIRCUMFLEX ACCENTbCOLONbCOMMAbCOMMERCIAL ATbDIGIT EIGHTcFIVEcFOURcNINEcONEcSEVENcSIXcTHREE",
    "cTWOcZERObDOLLAR SIGNbEQUALS SIGNbEXCLAMATION MARKbFULL STOPbGRAVE ACCENTbGREATER-THAN SIGN",
    "bHYPHEN-MINUSbLATIN CAPITAL LETTER AeBeCeDeEeFeGeHeIeJeKeLeMeNeOePeQeReSeTeUeVeWeXeYeZ",
    "cSMALL LETTER AeBeCeDeEeFeGeHeIeJeKeLeMeNeOePeQeReSeTeUeVeWeXeYeZbLEFT CURLY BRACKET",
    "cPARENTHESIScSQUARE BRACKETbLESS-THAN SIGNbLOW LINEbNUMBER SIGNbPERCENT SIGNbPLUS SIGN",
    "bQUESTION MARKbQUOTATION MARKbREVERSE SOLIDUSbRIGHT CURLY BRACKETcPARENTHESIScSQUARE BRACKET",
    "bSEMICOLONbSOLIDUSbSPACEbTILDEbVERTICAL LINEaTAGALOG LETTER AcARCHAIC RAcBAcDAcGAcHAcIcKAcLA",
    "cMAcNAcNGAcPAcRAcSAcTAcUcWAcYAbSIGN PAMUDPODcVIRAMAbVOWEL SIGN IdUaTAGBANWA LETTER AcBAcDA",
    "cGAcIcKAcLAcMAcNAcNGAcPAcSAcTAcUcWAcYAbVOWEL SIGN IdUaTAI LE LETTER AdAIdAUEdEdEEdEHdFAdHAdI",
    "dKAdKHAdLAdMAdNAdNGAdOdOOdPAdPHAdQAdSAdTAdTHAdTONE-2dTONE-3dTONE-4dTONE-5dTONE-6dTSAdTSHAdU",
    "dUEdVAdXAdYAbTHAM COMBINING CRYPTOGRAMMIC DOTcCONSONANT SIGN BAeFINAL NGA",
    "eHIGH RATHA OR LOW PAeLA TANG LAIeLOW PAeMAeMEDIAL LAfRAeSAcHORA DIGIT EIGHTeFIVEeFOUReNINE",
    "eONEeSEVENeSIXeTHREEeTWOeZEROcLETTER AdBAdDAdEEdGREAT SAdHIGH CAeCHAeFAeHAeKAeKHAeKXAePAePHA",
    "eRATHAeSAeSHAeSSAeTAeTHAeYAdIdIIdLAdLAEdLLAdLOW CAeCHAeFAeHAeKAeKHAeKXAePAePHAeRATHAeSAeTA",
    "eTHAeYAdLUEdMAdNAdNGAdNYAdOOdRAdRANAdRATAdRUEdUdUUdWAcSIGN CAANGdDOKMAIdHANGdHOYdKAAN",
    "dKAANKUUdKEOWdKHUEN TONE-3eTONE-4eTONE-5dKHUEN-LUE KARANdMAI KANGfLAIeSAMeYAMOKdRA HAAM",
    "dREVERSED ROTATED RANAdSAKOTdSATKAANdSATKAANKUUdSAWANdTONE-1dTONE-2dWIANGdWIANGWAAK",
    "cTHAM DIGIT EIGHTeFIVEeFOUReNINEeONEeSEVENeSIXeTHREEeTWOeZEROcVOWEL SIGN AeAAeAEeAIeEeIeII",
    "eMAI SATeOeOA ABOVEfBELOWeOOeOYeTALL AAeTHAM AIeUeUEeUUeUUEbVIET LETTER HIGH BOeCHOeCOeDOeFO",
    "eGOeHOeKHHOeKHOeKOeLOeMOeNGOeNOeNYOeOePHOePOeROeSOeTHOeTOeVOeYOdLOW BOeCHOeCOeDOeFOeGOeHO",
    "eKHHOeKHOeKOeLOeMOeNGOeNOeNYOeOePHOePOeROeSOeTHOeTOeVOeYOcMAI KANGdKHITcSYMBOL HO HOI",
    "dKOI KOIdKONdNUENGdSAMcTONE MAI EKeNUENGeSONGeTHOcVOWEL AAdAMdANdAUEdAYdEdIdIAdOdUdUAdUEdUEA",
    "aTAKEOUT BOXaTAKRI ABBREVIATION SIGNbDIGIT EIGHTcFIVEcFOURcNINEcONEcSEVENcSIXcTHREEcTWOcZERO",
    "bLETTER AcAAcAIcARCHAIC KHAcAUcBAcBHAcCAcCHAcDAcDDAcDDHAcDHAcEcGAcGHAcHAcIcIIcJAcJHAcKAcKHA",
    "cLAcMAcNAcNGAcNNAcNYAcOcPAcPHAcRAcRRAcSAcSHAcTAcTHAcTTAcTTHAcUcUUcVAcYAbSIGN ANUSVARAcNUKTA",
    "cVIRAMAcVISARGAbVOWEL SIGN AAdAIdAUdEdIdIIdOdUdUUaTALLY MARK FIVEcONEaTAMALE",
    "aTAMIL AND ODD SIGNbAS ABOVE SIGNbAU LENGTH MARKbCREDIT SIGNbCURRENT SIGNbDAY SIGN",
    "bDEBIT SIGNbDIGIT EIGHTcFIVEcFOURcNINEcONEcSEVENcSIXcTHREEcTWOcZERObDRY CULTIVATION SIGN",
    "bFRACTION DOWNSCALING FACTOR KIIZHcONE EIGHTHdEIGHTIETHdFIFTHdFORTIETHdHALF-1dHALF-2",
    "dONE-HUNDRED-AND-SIXTIETHdQUARTERdSIXTEENTH-1dSIXTEENTH-2dSIXTY-FOURTHdTENTHdTHIRTY-SECOND",
    "dTHREE-HUNDRED-AND-TWENTIETHdTWENTIETHcTHREE EIGHTIETHSdQUARTERSdSIXTEENTHSdSIXTY-FOURTHS",
    "dTWENTIETHSbIN POSSESSION SIGNbLAND SIGNbLETTER AcAAcAIcAUcCAcEcEEcHAcIcIIcJAcKAcLAcLLAcLLLA",
    "cMAcNAcNGAcNNAcNNNAcNYAcOcOOcPAcRAcRRAcSAcSHAcSSAcTAcTTAcUcUUcVAcYAbMONTH SIGN",
    "bNUMBER ONE HUNDREDdTHOUSANDcSIGNcTENbOMbPUNCTUATION END OF TEXTbRUPEE SIGNbSALT PAN SIGN",
    "bSIGN AAZHAAKKUcANUSVARAcCEVITUcKAACUcKURUNIcKUZHIcMUKKURUNIcMUTHALIYAcMUUVUZHAKKUcNEL",
    "cPAARAMcPANAMcPATHAKKUcPONcUZHAKKUcVAKAIYARAAcVARAAKANcVELIcVIRAMAcVISARGAbSPENT SIGN",
    "bSTARTING FROM SIGNbTOTAL SIGNbTRADITIONAL CREDIT SIGNcNUMBER SIGNbVOWEL SIGN AAdAIdAUdEdEE",
    "dIdIIdOdOOdUdUUbWET CULTIVATION SIGNbYEAR SIGNaTANABATA TREEaTANGERINEaTANGSA DIGIT EIGHT",
    "cFIVEcFOURcNINEcONEcSEVENcSIXcTHREEcTWOcZERObLETTER ACcAQcAWCcAWQcAWXcAWZcAXcAZcBAcCAcCHAcDA",
    "cDHAcECcEQcEXcEZcFAcFINAL NGcGAcGHAcHAcHTAcHTTAcICcIQcIXcIZcKAcKHAcLAcLONG UEXcMAcMCcMQcMX",
    "cMZcNAcNGAcNHAcNYAcOCcOQcOXcOZcPAcPHAcRAcSAcSHAcSHORT AWXdUEZcTAcTHAcTSAcUCcUECcUEQcUEXcUEZ",
    "cUICcUIQcUIUCcUIUQcUIUXcUIUZcUIXcUIZcUQcUXcUZcVCcVQcVXcVZcWAcXAcYAcZAaTANGUT ITERATION MARK",
    "aTAPE CARTRIDGEbDRIVEaTAURUSaTAXIaTEACUP WITHOUT HANDLEaTEAPOTaTEAR-OFF CALENDAR",
    "aTEARDROP-BARBED RIGHTWARDS ARROWaTEARDROP-SPOKED ASTERISKaTEDDY BEAR",
    "aTELEPHONE LOCATION SIGNbON TOP OF MODEMbRECEIVERcWITH PAGEbRECORDERbSIGNaTELESCOPE",
    "aTELEVISIONaTELUGU AI LENGTH MARKbDIGIT EIGHTcFIVEcFOURcNINEcONEcSEVENcSIXcTHREEcTWOcZERO",
    "bFRACTION DIGIT ONE FOR EVEN POWERS OF FOURfODD POWERS OF FOURdTHREE FOR EVEN POWERS OF FOUR",
    "fODD POWERS OF FOURdTWO FOR EVEN POWERS OF FOURfODD POWERS OF FOUR",
    "dZERO FOR ODD POWERS OF FOURbLENGTH MARKbLETTER AcAAcAIcAUcBAcBHAcCAcCHAcDAcDDAcDDHAcDHAcDZA",
    "cEcEEcGAcGHAcHAcIcIIcJAcJHAcKAcKHAcLAcLLAcLLLAcMAcNAcNAKAARA POLLUcNGAcNNAcNYAcOcOOcPAcPHA",
    "cRAcRRAcRRRAcSAcSHAcSSAcTAcTHAcTSAcTTAcTTHAcUcUUcVAcVOCALIC LdLLdRdRRcYAbSIGN ANUSVARA",
    "cAVAGRAHAcCANDRABINDUcCOMBINING ANUSVARA ABOVEdCANDRABINDU ABOVEcNUKTAcSIDDHAMcTUUMUcVIRAMA",
    "cVISARGAbVOWEL SIGN AAdAIdAUdEdEEdIdIIdOdOOdUdUUdVOCALIC LeLLeReRRaTENGE SIGN",
    "aTENNIS RACQUET AND BALLaTENTaTEST TUBEaTETRAGRAM FOR ACCUMULATIONcADVANCEcAGGRAVATION",
    "cASCENTcBARRIERcBOLD RESOLUTIONcBRANCHING OUTcCENTREcCHANGEcCLOSED MOUTHcCLOSENESScCLOSURE",
    "cCOMPLETIONcCOMPLIANCEcCONSTANCYcCONTACTcCONTENTIONcCONTRARIETYcDARKENINGcDECISIVENESS",
    "cDEFECTIVENESS OR DISTORTIONcDEPARTUREcDIFFICULTIEScDIMINISHMENTcDIMMINGcDIVERGENCEcDOUBT",
    "cDUTIEScEASEcEMBELLISHMENTcENCOUNTERScENDEAVOURcENLARGEMENTcETERNITYcEXHAUSTIONcFAILURE",
    "cFLIGHTcFOLLOWINGcFOSTERINGcFULL CIRCLEcFULLNESScGATHERINGdINcGOING TO MEETcGREATNESS",
    "cGUARDEDNESScHARDNESScHOLDING BACKcINCREASEcINNERcJOYcKEEPING SMALLcKINSHIPcLABOURING",
    "cLAW OR MODELcLEGIONcMASSINGcMEASUREcMIREDcON THE VERGEcOPPOSITIONcPACKINGcPATTERN",
    "cPENETRATIONcPURITYcREACHcRELEASEcRESIDENCEcRESISTANCEcRESPONSEcRITUALcSEVERANCEcSINKING",
    "cSTOPPAGEcSTOVEcSTRENGTHcUNITYcVASTNESS OR WASTINGcWAITINGcWATCHcYOUTHFULNESS",
    "aTHAANA AABAAFILIbABAFILIbEBEFILIbEEBEEFILIbEYBEYFILIbIBIFILIbLETTER AINUcALIFUcBAA",
    "cCHAVIYANIcDAADHUcDAVIYANIcDHAALUcFAAFUcGAAFUcGHAINUcGNAVIYANIcHAAcHHAAcJAVIYANIcKAAFUcKHAA",
    "cLAAMUcLHAVIYANIcMEEMUcNAAcNOONUcPAVIYANIcQAAFUcRAAcSAADHUcSEENUcSHAVIYANIcSHEENUcTAVIYANI",
    "cTHAAcTHAALUcTOcTTAAcVAAVUcWAAVUcYAAcZAAcZAVIYANIcZObOABOAFILIbOBOFILIbOOBOOFILIbSUKUN",
    "bUBUFILIaTHAI CHARACTER ANGKHANKHUcBO BAIMAIcCHO CHANdCHANGdCHINGdCHOEcDO CHADAdDEKcFO FA",
    "dFANcFONGMANcHO HIPdNOKHUKcKHO KHAIdKHONdKHUATdKHWAIdRAKHANGcKHOMUTcKO KAIcLAKKHANGYAO",
    "cLO CHULAdLINGcLUcMAI CHATTAWAdEKdHAN-AKATdTHOdTRIcMAITAIKHUcMAIYAMOKcMO MAcNGO NGUcNIKHAHIT",
    "cNO NENdNUcO ANGcPAIYANNOIcPHINTHUcPHO PHANdPHUNGdSAMPHAOcPO PLAcRO RUAcRUcSARA AdAAdAE",
    "dAI MAIMALAIeMAIMUANdAMdEdIdIIdOdUdUEdUEEdUUcSO RUSIdSALAdSOdSUAcTHANTHAKHATcTHO NANGMONTHO",
    "dPHUTHAOdTHAHANdTHANdTHONGdTHUNGcTO PATAKdTAOcWO WAENcYAMAKKANcYO YAKdYING",
    "bCURRENCY SYMBOL BAHTbDIGIT EIGHTcFIVEcFOURcNINEcONEcSEVENcSIXcTHREEcTWOcZERO",
    "aTHERE DOES NOT EXISTbEXISTSaTHEREFOREaTHERMODYNAMICaTHERMOMETERaTHIN GREEK CROSSbSALTIRE",
    "bSPACEaTHINKING FACEaTHIRD PLACE MEDALaTHONG SANDALaTHOUGHT BALLOONaTHREE BUTTON MOUSE",
    "bCONSECUTIVE EQUALS SIGNSbDIMENSIONAL ANGLEbDOT PUNCTUATIONbLEFTWARDS ARROWS",
    "bLINES CONVERGING LEFTdRIGHTbNETWORKED COMPUTERSbPOINTED BLACK STARbRAYS ABOVEcBELOWcLEFT",
    "cRIGHTbRIGHTWARDS ARROWSbSPEECH BUBBLESaTHREE-D BOTTOM-LIGHTED RIGHTWARDS ARROWHEAD",
    "bLEFT-LIGHTED DOWNWARDS EQUILATERAL ARROWHEADbRIGHT-LIGHTED UPWARDS EQUILATERAL ARROWHEAD",
    "bTOP-LIGHTED LEFTWARDS EQUILATERAL ARROWHEADcRIGHTWARDS ARROWHEADdEQUILATERAL ARROWHEAD",
    "aTHREE-EM DASHaTHREE-PER-EM SPACEaTHUMBS DOWN SIGNbUP SIGNaTHUNDER CLOUD AND RAIN",
    "aTHUNDERSTORMaTIBETAN ASTROLOGICAL SIGN -KHYUD PAdSDONG TSHUGSdSGRA GCAN -CHAR RTAGS",
    "bCANTILLATION SIGN CANG TE-UdHEAVY BEATdLIGHT BEATdSBUB -CHALbDIGIT EIGHTcFIVEcFOUR",
    "cHALF EIGHTdFIVEdFOURdNINEdONEdSEVENdSIXdTHREEdTWOdZEROcNINEcONEcSEVENcSIXcTHREEcTWOcZERO",
    "bKU RU KHAeBZHI MIG CANbLETTER -AcAcBAcBHAcCAcCHAcDAcDDAcDDHAcDHAcDZAcDZHAcFIXED-FORM RAcGA",
    "cGHAcHAcJAcKAcKHAcKKAcKSSAcLAcMAcNAcNGAcNNAcNYAcPAcPHAcRAcRRAcSAcSHAcSSAcTAcTHAcTSAcTSHAcTTA",
    "cTTHAcWAcYAcZAcZHAbLOGOTYPE SIGN CHAD RTAGSdLHAG RTAGSbMARK ANG KHANG GYASeGYON",
    "cBKA- SHOG GI MGO RGYANeYIG MGOcBSDUS RTAGScBSKA- SHOG GI MGO RGYANcBSKUR YIG MGO",
    "cCARET -DZUD RTAGS BZHI MIG CANfME LONG CANdYIG MGO PHUR SHAD MAcCHE MGO",
    "cCLOSING BRDA RNYING YIG MGO SGAB MAdYIG MGO SGAB MAcDELIMITER TSHEG BSTARcGTER TSHEG",
    "dYIG MGO -UM GTER TSHEG MAgRNAM BCAD MAfTRUNCATED AcGUG RTAGS GYASeGYONcHALANTA",
    "cINITIAL BRDA RNYING YIG MGO MDUN MAdYIG MGO MDUN MAcINTERSYLLABIC TSHEGcLEADING MCHAN RTAGS",
    "cMNYAM YIG GI MGO RGYANcNGAS BZUNG NYI ZLAeSGOR RTAGScNYIS SHADdTSHEGeSHADcPALUTA",
    "cRGYA GRAM SHADcRIN CHEN SPUNGS SHADcSBRUL SHADcSHADcTRAILING MCHAN RTAGScTSA -PHRU",
    "cTSHEG SHADcYIG MGO TSHEG SHAD MAbSIGN GRU CAN RGYINGSdMED RGYINGScINVERTED MCHU CAN",
    "cLCE TSA CANcLCI RTAGScMAR TSHEScMCHU CANcNYI ZLA NAA DAcRDEL DKAR GCIGeGNYISeGSUMeRDEL NAG",
    "dNAG GCIGeGNYISeGSUMeRDEL DKARcRJES SU NGA ROcRNAM BCADcSNA LDANcYANG RTAGScYAR TSHES",
    "bSUBJOINED LETTER -AdAdBAdBHAdCAdCHAdDAdDDAdDDHAdDHAdDZAdDZHAdFIXED-FORM RAeWAeYAdGAdGHAdHA",
    "dJAdKAdKHAdKSSAdLAdMAdNAdNGAdNNAdNYAdPAdPHAdRAdSAdSHAdSSAdTAdTHAdTSAdTSHAdTTAdTTHAdWAdYAdZA",
    "dZHAcSIGN INVERTED MCHU CANdLCE TSA CANdMCHU CANbSYLLABLE OMbSYMBOL DRIL BUcNOR BU",
    "eBZHI -KHYILeGSUM -KHYILeNYIS -KHYILcPADMA GDANcPHUR PAcRDO RJEeRGYA GRAMbVOWEL SIGN AAdEdEE",
    "dIdIIdOdOOdREVERSED IeIIdUdUUdVOCALIC LeLLeReRRaTICKETaTIE OVER INFINITY",
    "aTIFINAGH CONSONANT JOINERbLETTER AHAGGAR YAZHcAYER YAGHcBERBER ACADEMY YAHeYAJ",
    "cTAWELLEMET YAZcTUAREG YAGHdYAGNdYAHdYAKdYAKHdYANGdYAQdYAZHcYAcYAAcYABcYABHcYACHcYADcYADD",
    "cYADDHcYADHcYAFcYAGcYAGHcYAGHHcYAHcYAHHcYAJcYAKcYAKHcYAKHHcYALcYAMcYANcYAPcYAQcYARcYARRcYAS",
    "cYASHcYASScYATcYATHcYATTcYAVcYAWcYAYcYAZcYAZHcYAZZcYEcYEYcYIcYOcYU",
    "bMODIFIER LETTER LABIALIZATION MARKbSEPARATOR MARKaTIGERbFACEaTIGHT TRIFOLIATE SNOWFLAKE",
    "aTILDEbOPERATORcABOVE LEFTWARDS ARROWdRIGHTWARDS ARROWcWITH DOT ABOVEdRISING DOTS",
    "bWITH DOT ABOVEdBELOWcRING ABOVEaTIMER CLOCKaTIMES WITH LEFT HALF BLACKcRIGHT HALF BLACK",
    "aTINYbTWO DOTS OVER ONE DOT PUNCTUATIONaTIRED FACEaTIRHUTA ABBREVIATION SIGNbANJI",
    "bDIGIT EIGHTcFIVEcFOURcNINEcONEcSEVENcSIXcTHREEcTWOcZERObGVANGbLETTER AcAAcAIcAUcBAcBHAcCA",
    "cCHAcDAcDDAcDDHAcDHAcEcGAcGHAcHAcIcIIcJAcJHAcKAcKHAcLAcMAcNAcNGAcNNAcNYAcOcPAcPHAcRAcSAcSHA",
    "cSSAcTAcTHAcTTAcTTHAcUcUUcVAcVOCALIC LdLLdRdRRcYAbOMbSIGN ANUSVARAcAVAGRAHAcCANDRABINDU",
    "cNUKTAcVIRAMAcVISARGAbVOWEL SIGN AAdAIdAUdEdIdIIdOdSHORT EeOdUdUUdVOCALIC LeLLeReRR",
    "aTIRONIAN SIGN CAPITAL ETcETaTOILETaTOKYO TOWERaTOMATOaTONGUEaTOOLBOXaTOOTHaTOOTHBRUSH",
    "aTOP ARC ANTICLOCKWISE ARROWeWITH PLUScCLOCKWISE ARROW WITH MINUSbCURLY BRACKET",
    "bHALF BLACK CIRCLEcINTEGRALcLEFT PARENTHESIScRIGHT PARENTHESIScSECTION SIGNbHATbLEFT CORNER",
    "cCROPcHALF BRACKETbPARENTHESISbRIGHT CORNERcCROPcHALF BRACKETbSQUARE BRACKET",
    "bTORTOISE SHELL BRACKETbWITH UPWARDS ARROW ABOVE",
    "aTORTOISE SHELL BRACKETED CJK UNIFIED IDEOGRAPH-4E09fIDEOGRAPH-4E8CfIDEOGRAPH-52DD",
    "fIDEOGRAPH-5B89fIDEOGRAPH-6253fIDEOGRAPH-6557fIDEOGRAPH-672CfIDEOGRAPH-70B9fIDEOGRAPH-76D7",
    "dLATIN CAPITAL LETTER SaTOTAL RUNOUTaTOTO LETTER AcAEcBAcBREATHY AEdEdEOdIdIUcCHAcDAcEcEOcGA",
    "cHAcIcIUcJAcKAcLAcMAcNAcNGAcOcPAcRAcSAcTAcUcWAcYAbSIGN RISING TONEaTRACKBALLaTRACTOR",
    "aTRADE MARK SIGNaTRAINaTRAMbCARaTRANSPLUTOaTRANSVERSAL INTERSECTIONaTRIANGLE WITH DOT ABOVE",
    "cROUNDED CORNERScSERIFS AT BOTTOMcUNDERBARaTRIANGLE-HEADED RIGHTWARDS ARROW",
    "aTRIANGULAR BULLETbFLAG ON POSTbRULERaTRICOLONaTRIDENT EMBLEMaTRIGRAM FOR EARTHcFIREcHEAVEN",
    "cLAKEcMOUNTAINcTHUNDERcWATERcWINDaTRIPLE COLON OPERATORbDAGGER",
    "bHORIZONTAL BAR WITH DOUBLE VERTICAL STROKEeTRIPLE VERTICAL STROKEbINTEGRAL",
    "bNESTED GREATER-THANcLESS-THANbPLUSbPRIMEbSOLIDUS BINARY RELATIONbTILDE",
    "bVERTICAL BAR BINARY RELATIONdDELIMITERdRIGHT TURNSTILEdWITH HORIZONTAL STROKEaTROLL",
    "aTROLLEYBUSaTROPHYaTROPICAL DRINKbFISHaTRUEbLIGHT MOON ARTAaTRUMPETaTUGRIK SIGNaTULIP",
    "aTUMBLER GLASSaTURKEYaTURKISH LIRA SIGNaTURNED AMPERSANDbANGLEbBLACK PENTAGONcSHOGI PIECE",
    "bCAPITAL FbCOMMAbDAGGERbDIGIT THREEcTWObGREEK SMALL LETTER IOTAbNORTH EAST POINTING LEAF",
    "cWEST POINTING LEAFbNOT SIGNbOK HAND SIGNbSANS-SERIF CAPITAL GdLdYbSEMICOLONbSMALL F",
    "bSOUTH EAST POINTING LEAFcWEST POINTING LEAFbWHITE SHOGI PIECEaTURTLE",
    "aTWELVE POINTED BLACK STARaTWISTED RIGHTWARDS ARROWSaTWO ASTERISKS ALIGNED VERTICALLY",
    "bBUTTON MOUSEbCONSECUTIVE EQUALS SIGNSbDOT LEADERcPUNCTUATIONbDOTS OVER ONE DOT PUNCTUATION",
    "bHEARTSbINTERSECTING LOGICAL ANDdORbJOINED SQUARESbLOGICAL AND OPERATORcOR OPERATOR",
    "bMEN HOLDING HANDSbSPEECH BUBBLESbWOMEN HOLDING HANDSaTWO-EM DASHaUGARITIC LETTER AINcALPA",
    "cBETAcDELTAcDHALcGAMLAcGHAINcHOcHOTAcIcKAFcKHAcLAMDAcMEMcNUNcPUcQOPAcRASHAcSADEcSAMKAcSHIN",
    "cSSUcTETcTHANNAcTOcUcWOcYODcZETAcZUbWORD DIVIDERaUMBRELLAbON GROUNDbWITH RAIN DROPS",
    "aUNAMUSED FACEaUNCERTAINTY SIGNaUNDERTIEaUNDO SYMBOLaUNICORN FACEaUNION",
    "bABOVE BAR ABOVE INTERSECTIONcINTERSECTIONbBESIDE AND JOINED WITH UNIONbWITH LOGICAL OR",
    "cMINUS SIGNcOVERBARaUNIT SEPARATORaUNITED SYMBOLaUNIVERSAL RECYCLING SYMBOL",
    "aUNMARRIED PARTNERSHIP SYMBOLaUP ARROW THROUGH CIRCLEbARROWHEADcBETWEEN TWO HORIZONTAL BARS",
    "cIN A RECTANGLE BOXbBARB LEFT DOWN BARB LEFT HARPOONfRIGHT HARPOON",
    "cRIGHT DOWN BARB LEFT HARPOONfRIGHT HARPOONbDOWN ARROWdWITH BASEcBLACK ARROWcDOUBLE ARROW",
    "cSANS-SERIF ARROWcTRIANGLE-HEADED ARROWcWHITE ARROWbFISH TAILbRIGHT DIAGONAL ELLIPSISbTACK",
    "cWITH CIRCLE ABOVEaUP-POINTING AIRPLANEbMILITARY AIRPLANEbRED TRIANGLEbSMALL AIRPLANE",
    "cRED TRIANGLEbTRIANGLE WITH LEFT HALF BLACKdRIGHT HALF BLACK",
    "aUPPER AND LEFT AND LOWER TRIANGULAR THREE QUARTERS BLOCKcLOWER ONE EIGHTH BLOCK",
    "dTRIANGULAR HALF BLOCKcRIGHT AND LOWER TRIANGULAR THREE QUARTERS BLOCKbBLADE SCISSORS",
    "bFIVE EIGHTHS BLOCKbHALF BLOCKdAND LOWER HALF INVERSE MEDIUM SHADEcCIRCLE",
    "cINVERSE MEDIUM SHADE AND LOWER HALF BLOCKdWHITE CIRCLEcMEDIUM SHADE",
    "bLEFT BLOCK DIAGONAL LOWER CENTRE TO LOWER MIDDLE RIGHThUPPER MIDDLE RIGHTiRIGHT",
    "fLEFT TO LOWER MIDDLE RIGHThUPPER CENTREiMIDDLE RIGHTfMIDDLE LEFT TO UPPER CENTRE",
    "jMIDDLE RIGHTjRIGHTeUPPER MIDDLE LEFT TO UPPER CENTREjRIGHTcCORNER WITH DOT",
    "cOR LOWER RIGHT CURLY BRACKET SECTIONcQUADRANT CIRCULAR ARCcTO LOWER RIGHT FILLcTRIANGLE",
    "cTRIANGULAR MEDIUM SHADEbONE EIGHTH BLOCKcQUARTER BLOCK",
    "bRIGHT BLOCK DIAGONAL LOWER MIDDLE LEFT TO LOWER CENTREjRIGHT",
    "eUPPER CENTRE TO LOWER MIDDLE RIGHTiRIGHThUPPER MIDDLE RIGHTfLEFT TO LOWER CENTRE",
    "iMIDDLE RIGHThUPPER MIDDLE RIGHTfMIDDLE LEFT TO LOWER CENTREjMIDDLE RIGHTjRIGHT",
    "cDROP-SHADOWED WHITE SQUAREcOR LOWER LEFT CURLY BRACKET SECTIONcPENCILcQUADRANT CIRCULAR ARC",
    "cSHADOWED WHITE CIRCLEeSQUAREcTO LOWER LEFT FILLcTRIANGLEcTRIANGULAR MEDIUM SHADE",
    "bSEVEN EIGHTHS BLOCKbTHREE EIGHTHS BLOCKcQUARTERS BLOCKbTRIANGULAR ONE QUARTER BLOCK",
    "aUPSIDE-DOWN FACEaUPWARDS ANCORAbARROWcAND RIGHT ONE EIGHTH BLOCKcFROM BAR",
    "cLEFTWARDS OF DOWNWARDS ARROWcTO BARcWITH DOUBLE STROKEdEQUILATERAL ARROWHEAD",
    "dHORIZONTAL STROKEdLARGE TRIANGLE ARROWHEADdMEDIUM TRIANGLE ARROWHEADdNOTCHED TAIL",
    "dSMALL EQUILATERAL ARROWHEADeTRIANGLE ARROWHEADdTIP LEFTWARDSeRIGHTWARDSbBLACK ARROW",
    "cCIRCLED WHITE ARROWbCOMPRESSED ARROWbDASHED ARROWbDOUBLE ARROWbFINGER-POST ARROW",
    "bHARPOON WITH BARB LEFT BESIDE DOWNWARDS HARPOON WITH BARB RIGHT",
    "gUPWARDS HARPOON WITH BARB RIGHTfFROM BARfTO BAReLEFTWARDSeRIGHT FROM BARfTO BAReRIGHTWARDS",
    "bHEAVY ARROWcCOMPRESSED ARROWbPAIRED ARROWSbQUADRUPLE ARROWbROCKETbSANS-SERIF ARROW",
    "bSQUARED ARROWbTRIANGLE ARROWHEADbTRIANGLE-HEADED ARROW",
    "dLEFTWARDS OF DOWNWARDS TRIANGLE-HEADED ARROWdTO BARdWITH BOLD SHAFT",
    "eDOUBLE HORIZONTAL STROKEeHEAVY SHAFTeLONG TIP LEFTWARDSgRIGHTWARDSeMEDIUM SHAFT",
    "eNARROW SHAFTeVERY HEAVY SHAFTcDASHED ARROWcPAIRED ARROWSbTRIPLE ARROWbTWO HEADED ARROW",
    "bTWO-HEADED ARROW FROM SMALL CIRCLEdWITH TRIANGLE ARROWHEADSbWHITE ARROWdFROM BAR",
    "fWITH HORIZONTAL BARdON PEDESTALfWITH HORIZONTAL BARgVERTICAL BARdWITHIN TRIANGLE ARROWHEAD",
    "cDOUBLE ARROWeON PEDESTALaURANUSaUSaVAI COMMAbDIGIT EIGHTcFIVEcFOURcNINEcONEcSEVENcSIXcTHREE",
    "cTWOcZERObFULL STOPbQUESTION MARKbSYLLABLE AcANcBAcBEcBEEcBHAcBHEcBHEEcBHIcBHOcBHOOcBHUcBI",
    "cBOcBOOcBUcCAcCEcCEEcCIcCOcCOOcCUcDAcDEcDEEcDHAcDHEcDHEEcDHHAcDHHEcDHHEEcDHHIcDHHOcDHHOO",
    "cDHHUcDHIcDHOcDHOOcDHUcDIcDOcDOOcDUcEcEEcEENcENcFAcFEcFEEcFIcFOcFOOcFUcGAcGBAcGBEcGBEEcGBEN",
    "cGBIcGBOcGBONcGBOOcGBUcGEcGEEcGENcGIcGOcGOOcGUcHAcHANcHEcHEEcHENcHIcHINcHOcHONcHOOcHUcHUNcI",
    "cINcJAcJEcJEEcJIcJOcJOOcJUcKAcKANcKEcKEEcKIcKOcKOOcKPAcKPANcKPEcKPEEcKPENcKPIcKPOcKPOOcKPU",
    "cKUcLAcLEcLEEcLENGTHENERcLIcLOcLOOcLUcMAcMBAcMBEcMBEEcMBIcMBOcMBOOcMBUcMEcMEEcMGBAcMGBE",
    "cMGBEEcMGBIcMGBOcMGBOOcMGBUcMIcMOcMOOcMUcNAcNDAcNDEcNDEEcNDIcNDOcNDOLE DOdFAdKAdMAdSOOcNDOO",
    "cNDUcNEcNEEcNGcNGANcNGENcNGGAcNGGEcNGGEEcNGGENcNGGIcNGGOcNGGOOcNGGUcNGONcNIcNJAcNJEcNJEEcNJI",
    "cNJOcNJOOcNJUcNOcNOOcNUcNYAcNYEcNYEEcNYIcNYOcNYOOcNYUcOcONcOOcOONcPAcPEcPEEcPIcPOcPOOcPUcRA",
    "cREcREEcRIcROcROOcRUcSAcSEcSEEcSHAcSHEcSHEEcSHIcSHOcSHOOcSHUcSIcSOcSOOcSUcTAcTEcTEEcTHAcTHE",
    "cTHEEcTHIcTHOcTHOOcTHUcTIcTOcTOOcTUcUcUNcVAcVEcVEEcVIcVOcVOOcVUcWAcWANcWEcWEEcWEENcWENcWI",
    "cWINcWOcWONcWOOcWOONcWUcWUNcYAcYEcYEEcYIcYOcYOOcYUcZAcZEcZEEcZHAcZHEcZHEEcZHIcZHOcZHOOcZHU",
    "cZIcZOcZOOcZUbSYMBOL BANGcDANGcDO-OcDOONGcFAAcFEENGcJONGcKEENGcKUNGcNIIcTAAcTINGcTONG",
    "aVAMPIREaVECTOR OR CROSS PRODUCTaVEDIC SIGN ANUSVARA ANTARGOMUKHAdBAHIRGOMUKHA",
    "dUBHAYATO MUKHAdVAMAGOMUKHAeWITH TAILcARDHAVISARGAcATIKRAMAcDOUBLE ANUSVARA ANTARGOMUKHA",
    "cHEXIFORM LONG ANUSVARAcJIHVAMULIYAcLONG ANUSVARAcNIHSHVASAcREVERSED VISARGA ANUDATTAeUDATTA",
    "cROTATED ARDHAVISARGAcRTHANG LONG ANUSVARAcTIRYAKcUPADHMANIYAcVISARGA ANUDATTAeWITH TAIL",
    "dSVARITAdUDATTAeWITH TAILcYAJURVEDIC MIDLINE SVARITAbTONE ATHARVAVEDIC INDEPENDENT SVARITA",
    "cCANDRA ABOVEdBELOWcDOT BELOWcDOUBLE RING ABOVEdSVARITAcKARSHANAcKATHAKA ANUDATTAcPRENKHA",
    "cRIGVEDIC KASHMIRI INDEPENDENT SVARITAcRING ABOVEcSHARAcTHREE DOTS BELOWcTRIPLE SVARITA",
    "cTWO DOTS BELOWcYAJURVEDIC AGGRAVATED INDEPENDENT SVARITAdINDEPENDENT SVARITA",
    "dKATHAKA INDEPENDENT SVARITAgSCHROEDERaVERSICLEaVERTICAL BAR BESIDE RIGHT TRIANGLE",
    "cDOUBLE LEFT TURNSTILEcTRIPLE RIGHT TURNSTILEcWITH HORIZONTAL STROKEbELLIPSISbFOUR DOTS",
    "bIDEOGRAPHIC ITERATION MARKbKANA REPEAT MARKeLOWER HALFeUPPER HALFdWITH VOICED SOUND MARK",
    "hUPPER HALFbLINEcEXTENSIONcWITH CIRCLE ABOVEeBELOWdMIDDLE DOTbMALE WITH STROKE SIGN",
    "bONE EIGHTH BLOCK-2dBLOCK-3dBLOCK-4dBLOCK-5dBLOCK-6dBLOCK-7bSIX DOTSbTAB KEYbTABULATIONcSET",
    "bTILDEbTRAFFIC LIGHTbZIGZAG LINEaVERY BOLD GREEK CROSSbHEAVY EIGHT POINTED BLACK STAR",
    "dSPOKED ASTERISKcFIVE SPOKED ASTERISKcGREEK CROSScREVERSE SOLIDUScSALTIRE",
    "cSIX SPOKED ASTERISKcSOLIDUScWHITE CIRCLEdSQUAREbMUCH GREATER-THANcLESS-THANaVESTA",
    "aVIBRATION MODEaVICTORY HANDaVIDEO CAMERAbGAMEaVIDEOCASSETTE",
    "aVIETNAMESE ALTERNATE READING MARK CAeNHAYaVIEWDATA SQUAREaVIOLINaVIRGO",
    "aVITHKUQI CAPITAL LETTER AdBBEdBEdCEdCHEdDEdDHEdEdEIdFEdGAdHAdHHAdIdIJEdJEdKAdLAdLLAdMEdNE",
    "dNJEdOdPEdQAdREdSEdSHEdTEdTHEdUdVEdXEdYdZEbSMALL LETTER AdBBEdBEdCEdCHEdDEdDHEdEdEIdFEdGAdHA",
    "dHHAdIdIJEdJEdKAdLAdLLAdMEdNEdNJEdOdPEdQAdREdSEdSHEdTEdTHEdUdVEdXEdYdZEaVOIDED GREEK CROSS",
    "aVOLCANOaVOLLEYBALLaVOLUME INTEGRALaVTaVTSaVULCANUSaVULGAR FRACTION FIVE EIGHTHSdSIXTHS",
    "cFOUR FIFTHScONE EIGHTHdFIFTHdHALFdNINTHdQUARTERdSEVENTHdSIXTHdTENTHdTHIRDcSEVEN EIGHTHS",
    "cTHREE EIGHTHSdFIFTHSdQUARTERScTWO FIFTHSdTHIRDScZERO THIRDSaWAFFLEaWANCHO DIGIT EIGHTcFIVE",
    "cFOURcNINEcONEcSEVENcSIXcTHREEcTWOcZERObLETTER AcAAcAANcAANGcANGcAUcBAcCAcDAcEcENcFAcGAcHAcI",
    "cINGcJAcKAcKHAcLAcLLHAcMAcNAcNGAcNYAcOcONcONGcPAcPHAcRAcSAcSHAcTAcTHAcTRAcTSAcUcUENcVAcWAcYA",
    "cYIHcZAbNGUN SIGNbTONE KOIcKOINIcTUPcTUPNIaWANING CRESCENT MOON SYMBOLbGIBBOUS MOON SYMBOL",
    "aWARANG CITI CAPITAL LETTER AeAMeANGeATeBUeDAeEeENNeENYeGAeHAReHIYOeHOLOeHORReIIeKOeNGAA",
    "eNUNGeOeODDePUeSIIeSSUUeTTEeUCeUUeVIYOeWIeYAeYOeYUeYUJcDIGIT EIGHTdFIVEdFOURdNINEdONEdSEVEN",
    "dSIXdTHREEdTWOdZEROcNUMBER EIGHTYdFIFTYdFORTYdNINETYdSEVENTYdSIXTYdTENdTHIRTYdTWENTYcOM",
    "cSMALL LETTER AeAMeANGeATeBUeDAeEeENNeENYeGAeHAReHIYOeHOLOeHORReIIeKOeNGAAeNUNGeOeODDePUeSII",
    "eSSUUeTTEeUCeUUeVIYOeWIeYAeYOeYUeYUJaWARNING SIGNaWASTEBASKETaWATCHaWATER BUFFALObCLOSET",
    "bPOLObWAVEaWATERMELONaWAVE ARROW POINTING DIRECTLY LEFTeRIGHTbDASHaWAVING BLACK FLAG",
    "bHAND SIGNbWHITE FLAGaWAVY DASHbLINEbLOW LINEbOVERLINEaWAXING CRESCENT MOON SYMBOL",
    "bGIBBOUS MOON SYMBOLaWEARY CAT FACEbFACEaWEDDINGaWEDGE-TAILED RIGHTWARDS ARROW",
    "aWEIERSTRASS ELLIPTIC FUNCTIONaWEIGHT LIFTERaWEST SYRIAC CROSSaWHALEaWHEELbOF DHARMA",
    "aWHEELCHAIR SYMBOLaWHITE ARROW SHAFT WIDTH ONEeTWO THIRDSbBULLETbCHESS BISHOP",
    "dROTATED NINETY DEGREESeTWO HUNDRED SEVENTY DEGREEScEQUIHOPPERdROTATED NINETY DEGREEScKING",
    "dROTATED NINETY DEGREESeTWO HUNDRED SEVENTY DEGREEScKNIGHTdROTATED FORTY-FIVE DEGREES",
    "eNINETY DEGREESeONE HUNDRED THIRTY-FIVE DEGREESeTHREE HUNDRED FIFTEEN DEGREES",
    "eTWO HUNDRED SEVENTY DEGREESgTWENTY-FIVE DEGREEScKNIGHT-BISHOPcKNIGHT-QUEENcKNIGHT-ROOKcPAWN",
    "dROTATED NINETY DEGREESeTWO HUNDRED SEVENTY DEGREEScQUEENdROTATED NINETY DEGREES",
    "eTWO HUNDRED SEVENTY DEGREEScROOKdROTATED NINETY DEGREESeTWO HUNDRED SEVENTY DEGREES",
    "cTURNED BISHOPdKINGdKNIGHTdPAWNdQUEENdROOKbCIRCLEcCONTAINING BLACK SMALL CIRCLE",
    "cWITH DOT RIGHTdDOWN ARROWdLOWER LEFT QUADRANTeRIGHT QUADRANTdTWO DOTSdUPPER LEFT QUADRANT",
    "eRIGHT QUADRANTbCLUB SUITbCONCAVE-SIDED DIAMONDdWITH LEFTWARDS TICKeRIGHTWARDS TICKbDIAMOND",
    "cCONTAINING BLACK MEDIUM DIAMONDeSMALL DIAMONDeVERY SMALL DIAMONDcIN SQUAREcSUIT",
    "cWITH CENTRED DOTbDOWN POINTING BACKHAND INDEXdINDEXdLEFT HAND INDEX",
    "bDOWN-POINTING SMALL TRIANGLEcTRIANGLEbDRAUGHTS KINGcMANbEXCLAMATION MARK ORNAMENTbFLAG",
    "cWITH HORIZONTAL MIDDLE BLACK STRIPEbFLORETTEbFLOWERbFOUR POINTED CUSPdSTARbFROWNING FACE",
    "bHARD SHELL FLOPPY DISKbHEARTcSUITbHEAVY CHECK MARKcSALTIRE WITH ROUNDED CORNERSbHEXAGON",
    "bHORIZONTAL ELLIPSEbHOURGLASSbLARGE SQUAREbLATIN CROSSbLEFT LANE MERGE",
    "cPOINTING BACKHAND INDEXdINDEXbLEFT-POINTING POINTERcSMALL TRIANGLEcTRIANGLE",
    "bLOZENGE CONTAINING BLACK SMALL LOZENGEbMEDIUM DIAMONDcLOZENGEcSMALL SQUAREcSQUAREcSTAR",
    "bMOON SELENAbNIBbPARALLELOGRAMbPENNANTbPENTAGONbQUESTION MARK ORNAMENTbRECTANGLE",
    "bRIGHT POINTING BACKHAND INDEXdINDEXbRIGHT-POINTING PENTAGONcPOINTERcSMALL TRIANGLEcTRIANGLE",
    "bSCISSORSbSESAME DOTbSHOGI PIECEbSMALL LOZENGEcSQUAREcSTARbSMILING FACEbSPADE SUITbSQUARE",
    "cBUTTONcCONTAINING BLACK MEDIUM SQUAREeSMALL SQUAREeVERY SMALL SQUARE",
    "cWITH CENTRE VERTICAL LINEdLEFTWARDS TICKdLOWER LEFT QUADRANTeRIGHT QUADRANTdRIGHTWARDS TICK",
    "dROUNDED CORNERSdUPPER LEFT QUADRANTeRIGHT QUADRANTdVERTICAL BISECTING LINEbSTARbSUN",
    "cBEHIND CLOUDeWITH RAINcWITH RAYSdSMALL CLOUDbTELEPHONEbTOUCHTONE TELEPHONEbTRAPEZIUM",
    "bTRIANGLE CONTAINING SMALL WHITE TRIANGLEbTWO-WAY LEFT WAY TRAFFIC",
    "bUP POINTING BACKHAND INDEXdINDEXbUP-POINTING CHEVRONcSMALL TRIANGLEcTRIANGLEdWITH DOT",
    "bVERTICAL BARcELLIPSEcRECTANGLEbVERY SMALL SQUAREaWHITE-FEATHERED RIGHTWARDS ARROW",
    "aWIDE-HEADED DOWNWARDS BARB ARROWcHEAVY BARB ARROWcLIGHT BARB ARROWcMEDIUM BARB ARROW",
    "cVERY HEAVY BARB ARROWbLEFTWARDS BARB ARROWcHEAVY BARB ARROWcLIGHT BARB ARROW",
    "cMEDIUM BARB ARROWcVERY HEAVY BARB ARROWbNORTH EAST BARB ARROWdHEAVY BARB ARROW",
    "dLIGHT BARB ARROWdMEDIUM BARB ARROWdVERY HEAVY BARB ARROWcWEST BARB ARROWdHEAVY BARB ARROW",
    "dLIGHT BARB ARROWdMEDIUM BARB ARROWdVERY HEAVY BARB ARROWbRIGHTWARDS BARB ARROW",
    "cHEAVY BARB ARROWcLIGHT BARB ARROWcMEDIUM BARB ARROWcVERY HEAVY BARB ARROW",
    "bSOUTH EAST BARB ARROWdHEAVY BARB ARROWdLIGHT BARB ARROWdMEDIUM BARB ARROW",
    "dVERY HEAVY BARB ARROWcWEST BARB ARROWdHEAVY BARB ARROWdLIGHT BARB ARROWdMEDIUM BARB ARROW",
    "dVERY HEAVY BARB ARROWbUPWARDS BARB ARROWcHEAVY BARB ARROWcLIGHT BARB ARROW",
    "cMEDIUM BARB ARROWcVERY HEAVY BARB ARROWaWIGGLY VERTICAL LINEaWILTED FLOWER",
    "aWIND BLOWING FACEbCHIMEaWINDOWaWINE GLASSaWINKING FACEaWIRED KEYBOARDaWJaWOLF FACEaWOMAN",
    "bWITH BUNNY EARSaWOMANS BOOTSbCLOTHESbHATbSANDALaWOMENS SYMBOLaWON SIGNaWOODaWORD JOINER",
    "bSEPARATOR MIDDLE DOTaWORLD MAPaWORMaWORRIED FACEaWRAPPED PRESENTaWREATH PRODUCTaWRENCH",
    "aWRESTLERSaWRITING HANDaX IN A RECTANGLE BOXaX-RAYaXIANGQI BLACK CANNONcCHARIOTcELEPHANT",
    "cGENERALcHORSEcMANDARINcSOLDIERbRED CANNONcCHARIOTcELEPHANTcGENERALcHORSEcMANDARINcSOLDIER",
    "aXORaYAWNING FACEaYELLOW HEARTaYEN SIGNaYEZIDI COMBINING HAMZA MARKcMADDA MARK",
    "bHYPHENATION MARKbLETTER BEcCHHIMcCHIMcCIMcDADcDALcELIFcETcEWcEYNcFAcGAFcHAYcHHAcJAcKAFcKHAF",
    "cLAMdWITH DOT ABOVEcMIMcNUNcOWcPEcPHEcQAFcRAcRHAcSADcSEcSHINcSINcTAcTHEcUMcVAdALTERNATE FORM",
    "cWAWcXAcXHEYNcYOTdWITH CIRCUMFLEX ABOVEcZAcZALcZEaYI RADICAL BBUTcBURcCHEcCIPcCUOPcCYcCYP",
    "cCYTcDDURcDUcGAcGEPcGGOPcGGUOcGOTcHMOcHXITcHXOPcHXUOcJJIEcJJUTcJJYcJOcKEcKITcLIcLIEcLYRcMI",
    "cMOPcNBIEcNYIPcNYOPcNZUPcOPcPUTcPYTcQOTcSHATcSHOPcSHURcSHYcSSIcTATcTUcVEPcVURcWOcYITcYOcZA",
    "cZOTcZUPcZURcZZIETbSYLLABLE AcAPcATcAXcBAcBAPcBATcBAXcBBAcBBAPcBBATcBBAXcBBEcBBEPcBBEXcBBI",
    "cBBIEcBBIEPcBBIETcBBIEXcBBIPcBBITcBBIXcBBOcBBOPcBBOTcBBOXcBBUcBBUOcBBUOPcBBUOXcBBUPcBBUR",
    "cBBURXcBBUTcBBUXcBBYcBBYPcBBYTcBBYXcBEcBEPcBEXcBIcBIEcBIEPcBIETcBIEXcBIPcBITcBIXcBOcBOPcBOT",
    "cBOXcBUcBUOcBUOPcBUOXcBUPcBURcBURXcBUTcBUXcBYcBYPcBYRcBYRXcBYTcBYXcCAcCAPcCATcCAXcCEcCEPcCEX",
    "cCHAcCHAPcCHATcCHAXcCHEcCHEPcCHETcCHEXcCHOcCHOPcCHOTcCHOXcCHUcCHUOcCHUOPcCHUOTcCHUOXcCHUP",
    "cCHURcCHURXcCHUXcCHYcCHYPcCHYRcCHYRXcCHYTcCHYXcCIcCIEcCIEPcCIETcCIEXcCIPcCITcCIXcCOcCOPcCOT",
    "cCOXcCUcCUOcCUOPcCUOXcCUPcCURcCURXcCUTcCUXcCYcCYPcCYRcCYRXcCYTcCYXcDAcDAPcDATcDAXcDDAcDDAP",
    "cDDATcDDAXcDDEcDDEPcDDEXcDDIcDDIEcDDIEPcDDIEXcDDIPcDDITcDDIXcDDOcDDOPcDDOTcDDOXcDDUcDDUO",
    "cDDUOPcDDUOXcDDUPcDDURcDDURXcDDUTcDDUXcDEcDEPcDEXcDIcDIEcDIEPcDIEXcDIPcDITcDIXcDOcDOPcDOT",
    "cDOXcDUcDUOcDUOXcDUPcDURcDURXcDUTcDUXcEcEXcFAcFAPcFATcFAXcFIcFIPcFITcFIXcFOcFOPcFOXcFUcFUP",
    "cFURcFURXcFUTcFUXcFYcFYPcFYTcFYXcGAcGAPcGATcGAXcGEcGEPcGETcGEXcGGAcGGAPcGGATcGGAXcGGEcGGEP",
    "cGGETcGGEXcGGIcGGIEcGGIEPcGGIEXcGGITcGGIXcGGOcGGOPcGGOTcGGOXcGGUcGGUOcGGUOPcGGUOTcGGUOXcGGUP",
    "cGGURcGGURXcGGUTcGGUXcGIcGIEcGIEPcGIETcGIEXcGIPcGITcGIXcGOcGOPcGOTcGOXcGUcGUOcGUOPcGUOTcGUOX",
    "cGUPcGURcGURXcGUTcGUXcHAcHAPcHATcHAXcHEcHEPcHEXcHIEcHIEXcHITcHLAcHLAPcHLATcHLAXcHLEcHLEP",
    "cHLEXcHLIcHLIEcHLIEPcHLIEXcHLIPcHLITcHLIXcHLOcHLOPcHLOXcHLUcHLUOcHLUOPcHLUOXcHLUPcHLURcHLURX",
    "cHLUTcHLUXcHLYcHLYPcHLYRcHLYRXcHLYTcHLYXcHMAcHMAPcHMATcHMAXcHMIcHMIEcHMIEPcHMIEXcHMIPcHMIT",
    "cHMIXcHMOcHMOPcHMOTcHMOXcHMUcHMUOcHMUOPcHMUOXcHMUPcHMURcHMURXcHMUTcHMUXcHMYcHMYPcHMYRcHMYRX",
    "cHMYXcHNAcHNAPcHNATcHNAXcHNEcHNEPcHNEXcHNIcHNIEcHNIEPcHNIETcHNIEXcHNIPcHNITcHNIXcHNOPcHNOT",
    "cHNOXcHNUOcHNUOXcHNUTcHOcHOPcHOTcHOXcHUOcHUOPcHUOTcHUOXcHXAcHXAPcHXATcHXAXcHXEcHXEPcHXEXcHXI",
    "cHXIEcHXIEPcHXIETcHXIEXcHXIPcHXITcHXIXcHXOcHXOPcHXOTcHXOXcHXUOcHXUOPcHXUOTcHXUOXcIcIEcIEP",
    "cIETcIEXcIPcITcITERATION MARKcIXcJIcJIEcJIEPcJIETcJIEXcJIPcJITcJIXcJJIcJJIEcJJIEPcJJIET",
    "cJJIEXcJJIPcJJITcJJIXcJJOcJJOPcJJOTcJJOXcJJUcJJUOcJJUOPcJJUOXcJJUPcJJURcJJURXcJJUTcJJUXcJJY",
    "cJJYPcJJYTcJJYXcJOcJOPcJOTcJOXcJUcJUOcJUOPcJUOTcJUOXcJUPcJURcJURXcJUTcJUXcJYcJYPcJYRcJYRX",
    "cJYTcJYXcKAcKAPcKATcKAXcKEcKEPcKETcKEXcKIcKIEcKIEPcKIEXcKIPcKITcKIXcKOcKOPcKOTcKOXcKUcKUO",
    "cKUOPcKUOXcKUPcKURcKURXcKUTcKUXcLAcLAPcLATcLAXcLEcLEPcLEXcLIcLIEcLIEPcLIETcLIEXcLIPcLITcLIX",
    "cLOcLOPcLOTcLOXcLUcLUOcLUOPcLUOTcLUOXcLUPcLURcLURXcLUTcLUXcLYcLYPcLYRcLYRXcLYTcLYXcMAcMAP",
    "cMATcMAXcMEcMEXcMGAcMGAPcMGATcMGAXcMGEcMGEPcMGEXcMGIEcMGIEXcMGOcMGOPcMGOTcMGOXcMGUcMGUO",
    "cMGUOPcMGUOXcMGUPcMGURcMGURXcMGUTcMGUXcMIcMIEcMIEPcMIEXcMIPcMITcMIXcMOcMOPcMOTcMOXcMUcMUO",
    "cMUOPcMUOTcMUOXcMUPcMURcMURXcMUTcMUXcMYcMYPcMYTcMYXcNAcNAPcNAXcNBAcNBAPcNBATcNBAXcNBIcNBIE",
    "cNBIEPcNBIEXcNBIPcNBITcNBIXcNBOcNBOPcNBOTcNBOXcNBUcNBUPcNBURcNBURXcNBUTcNBUXcNBYcNBYPcNBYR",
    "cNBYRXcNBYTcNBYXcNDAcNDAPcNDATcNDAXcNDEcNDEPcNDEXcNDIcNDIEcNDIEXcNDIPcNDITcNDIXcNDOcNDOP",
    "cNDOTcNDOXcNDUcNDUPcNDURcNDURXcNDUTcNDUXcNEcNEPcNEXcNGAcNGAPcNGATcNGAXcNGEcNGEPcNGEXcNGIE",
    "cNGIEPcNGIEXcNGOcNGOPcNGOTcNGOXcNGUOcNGUOTcNGUOXcNIcNIEcNIEPcNIEXcNIPcNITcNIXcNJIcNJIEcNJIEP",
    "cNJIETcNJIEXcNJIPcNJITcNJIXcNJOcNJOPcNJOTcNJOXcNJUcNJUOcNJUOXcNJUPcNJURcNJURXcNJUXcNJYcNJYP",
    "cNJYRcNJYRXcNJYTcNJYXcNOcNOPcNOTcNOXcNRAcNRAPcNRATcNRAXcNREcNREPcNRETcNREXcNROcNROPcNROXcNRU",
    "cNRUPcNRURcNRURXcNRUTcNRUXcNRYcNRYPcNRYRcNRYRXcNRYTcNRYXcNUcNUOcNUOPcNUOXcNUPcNURcNURXcNUT",
    "cNUXcNYIcNYIEcNYIEPcNYIETcNYIEXcNYIPcNYITcNYIXcNYOcNYOPcNYOTcNYOXcNYUcNYUOcNYUOPcNYUOXcNYUP",
    "cNYUTcNYUXcNZAcNZAPcNZATcNZAXcNZEcNZEXcNZIcNZIEcNZIEPcNZIEXcNZIPcNZITcNZIXcNZOPcNZOXcNZU",
    "cNZUOcNZUOXcNZUPcNZURcNZURXcNZUXcNZYcNZYPcNZYRcNZYRXcNZYTcNZYXcOcOPcOTcOXcPAcPAPcPATcPAXcPI",
    "cPIEcPIEPcPIEXcPIPcPITcPIXcPOcPOPcPOTcPOXcPUcPUOcPUOPcPUOXcPUPcPURcPURXcPUTcPUXcPYcPYPcPYR",
    "cPYRXcPYTcPYXcQIcQIEcQIEPcQIETcQIEXcQIPcQITcQIXcQOcQOPcQOTcQOXcQUcQUOcQUOPcQUOTcQUOXcQUPcQUR",
    "cQURXcQUTcQUXcQYcQYPcQYRcQYRXcQYTcQYXcRAcRAPcRATcRAXcREcREPcREXcROcROPcROTcROXcRRAcRRAXcRRE",
    "cRREPcRRETcRREXcRROcRROPcRROTcRROXcRRUcRRUOcRRUOXcRRUPcRRURcRRURXcRRUTcRRUXcRRYcRRYPcRRYR",
    "cRRYRXcRRYTcRRYXcRUcRUOcRUOPcRUOXcRUPcRURcRURXcRUTcRUXcRYcRYPcRYRcRYRXcRYTcRYXcSAcSAPcSAT",
    "cSAXcSEcSEPcSEXcSHAcSHAPcSHATcSHAXcSHEcSHEPcSHETcSHEXcSHOcSHOPcSHOTcSHOXcSHUcSHUOcSHUOP",
    "cSHUOXcSHUPcSHURcSHURXcSHUTcSHUXcSHYcSHYPcSHYRcSHYRXcSHYTcSHYXcSIcSIEcSIEPcSIEXcSIPcSITcSIX",
    "cSOcSOPcSOTcSOXcSSAcSSAPcSSATcSSAXcSSEcSSEPcSSEXcSSIcSSIEcSSIEPcSSIEXcSSIPcSSITcSSIXcSSO",
    "cSSOPcSSOTcSSOXcSSUcSSUPcSSUTcSSUXcSSYcSSYPcSSYRcSSYRXcSSYTcSSYXcSUcSUOcSUOPcSUOXcSUPcSUR",
    "cSURXcSUTcSUXcSYcSYPcSYRcSYRXcSYTcSYXcTAcTAPcTATcTAXcTEcTEPcTEXcTIcTIEcTIEPcTIEXcTIPcTITcTIX",
    "cTOcTOPcTOTcTOXcTUcTUOcTUOPcTUOTcTUOXcTUPcTURcTURXcTUTcTUXcUOcUOPcUOXcVAcVAPcVATcVAXcVEPcVEX",
    "cVIcVIEcVIEPcVIETcVIEXcVIPcVITcVIXcVOcVOPcVOTcVOXcVUcVUPcVURcVURXcVUTcVUXcVYcVYPcVYRcVYRX",
    "cVYTcVYXcWAcWAPcWATcWAXcWEcWEPcWEXcWOcWOPcWOXcWUcWUOcWUOPcWUOXcXIcXIEcXIEPcXIETcXIEXcXIPcXIT",
    "cXIXcXOcXOPcXOTcXOXcXUOcXUOXcXYcXYPcXYRcXYRXcXYTcXYXcYIcYIEcYIEPcYIETcYIEXcYIPcYITcYIXcYO",
    "cYOPcYOTcYOXcYUcYUOcYUOPcYUOTcYUOXcYUPcYURcYURXcYUTcYUXcYYcYYPcYYRcYYRXcYYTcYYXcZAcZAPcZAT",
    "cZAXcZEcZEPcZEXcZHAcZHAPcZHATcZHAXcZHEcZHEPcZHETcZHEXcZHOcZHOPcZHOTcZHOXcZHUcZHUOcZHUOP",
    "cZHUOXcZHUPcZHURcZHURXcZHUTcZHUXcZHYcZHYPcZHYRcZHYRXcZHYTcZHYXcZIcZIEcZIEPcZIEXcZIPcZITcZIX",
    "cZOcZOPcZOTcZOXcZUcZUOcZUOPcZUOXcZUPcZURcZURXcZUTcZUXcZYcZYPcZYRcZYRXcZYTcZYXcZZAcZZAPcZZAT",
    "cZZAXcZZEcZZEPcZZEXcZZIcZZIEcZZIEPcZZIETcZZIEXcZZIPcZZITcZZIXcZZOcZZOPcZZOXcZZUcZZUPcZZUR",
    "cZZURXcZZUXcZZYcZZYPcZZYRcZZYRXcZZYTcZZYXaYIN YANGaYO-YOaZ NOTATION BAG MEMBERSHIP",
    "cDOMAIN ANTIRESTRICTIONcLEFT BINDING BRACKETdIMAGE BRACKETcRANGE ANTIRESTRICTION",
    "cRELATIONAL COMPOSITIONcRIGHT BINDING BRACKETdIMAGE BRACKETcSCHEMA COMPOSITIONdPIPING",
    "dPROJECTIONcSPOTcTYPE COLONaZANABAZAR SQUARE CLOSING DOUBLE-LINED HEAD MARKdHEAD MARK",
    "cCLUSTER-FINAL LETTER LAeRAeVAeYAcCLUSTER-INITIAL LETTER RAcFINAL CONSONANT MARK",
    "cINITIAL DOUBLE-LINED HEAD MARKdHEAD MARKcLETTER -AdAdBAdBHAdCAdCHAdDAdDDAdDDHAdDHAdDZAdDZHA",
    "dGAdGHAdHAdJAdKAdKHAdKSSAdLAdMAdNAdNGAdNNAdNYAdPAdPHAdRAdSAdSHAdSSAdTAdTHAdTSAdTSHAdTTAdTTHA",
    "dVAdYAdZAdZHAcMARK DOUBLE SHADdLONG TSHEGdSHADdTSHEGcSIGN ANUSVARAdCANDRA WITH ORNAMENT",
    "dCANDRABINDUeWITH ORNAMENTdVIRAMAdVISARGAcSUBJOINERcVOWEL LENGTH MARKdSIGN AIeAUeEeIeOeOE",
    "eREVERSED IeUeUEaZEBRA FACEaZERO WIDTH JOINERcNO-BREAK SPACEcNON-JOINERcSPACEaZEUS",
    "aZIPPER-MOUTH FACEaZNAMENNY COMBINING ATTACHING VERTICAL OMETcLOWER TONAL RANGE INDICATOR",
    "cMARK BORZAYAdCHASHKAePOLNAYAdCURVED OMETdDEMESTVENNY ZADERZHKAdDVOETOCHIE",
    "dGORAZDO NIZKO ON LEFTgRIGHTfS KRYZHEM ON LEFTiRIGHTeVYSOKOdKACHKAdKRYZHeON LEFTdKUPNAYA",
    "dLOMKAdMALO POVYSHE ON LEFTgRIGHTfS KHOKHLOM ON LEFTiRIGHTgKRYZHEMfSTRANNOdNIZKO ON LEFT",
    "fRIGHTeS KRYZHEM ON LEFThRIGHTdOBLACHKOdONdOTSECHKAdPODCHASHIEeWITH VERTICAL STROKE",
    "dPODVERTKAdPOVYSHE ON LEFTfRIGHTeS KHOKHLOM ON LEFThRIGHTfKRYZHEMeSTRANNOdRAVNOdRAZSEKA",
    "dSKOBAdSOROCHYA NOZHKAdSREDNE ON LEFTfRIGHTdSTRANNO MALO POVYSHEdTIKHAYAdTOCHKA",
    "dTSATA ON LEFTfRIGHTeS KRYZHEMdUDARKAdVYSOKO ON LEFTfRIGHTeS KHOKHLOM ON LEFThRIGHTfKRYZHEM",
    "dZADERZHKAdZELOdZEVOKcTONAL RANGE MARK MRACHNOfSVETLOfTRESVETLObNEUME CHASHKAcCHELYUSTKA",
    "cDEMESTVENNY KLYUCHcDERBITSAcDOUBLE ZAPYATAYAcDUDAcDVA V CHELNUcFITAcGOLUBCHIK BORZYdMRACHNY",
    "dSVETLYdTIKHYdTRESVETLYcKHAMILOcKLYUCHcKOBYLAcKRYUKdTIKHYcKRYZHcKUFISMAcMECHIK",
    "dKLYUCHENEPOSTOYANNYdKLYUCHEPOVODNYdKLYUCHEVOYdPOVODNYcNEMKAcOBLAKOcOSOKA",
    "dKLYUCHEVAYA NEPOSTOYANNAYAeSVETLAYAdKRYUKOVAYA SVETLAYAdSVETLAYAdTRESVETLAYAcPALKAcPARAKLIT",
    "cPAUKcPEREVODKAdNEPOSTOYANNAYAcPODCHASHIEcPOLKULIZMYcREVERSED CHELYUSTKAcROG",
    "cSKAMEYTSA DVOECHELNAYA KLYUCHEVAYAeNEPOSTOYANNAYAePROSTAYAeSVETLAYAdKLYUCHENEPOSTOYANNAYA",
    "dKLYUCHEVAYA SVETLAYAeTIKHAYAdMRACHNAYAdSVETLAYAdTIKHAYAdTRESVETLAYAcSLOZHITIEdS KRYZHEM",
    "eZAPYATOYdZAKRYTOEcSTATYAdNEPOSTOYANNAYAdS DVUMYA ZAPYATYMIeKRYZHEMfI ZAPYATOYeROGOM",
    "eZAPYATOYfI KRYZHEMgPODCHASHIEMdZAKRYTAYAeS ZAPYATOYcSTOPITSAdS OCHKOMdWITH SOROCHYA NOZHKA",
    "cSTRELA DVOECHELNAYAeKLYUCHEVAYAdDVOECHELNOKRYZHEVAYAdDVOECHELNOPOVODNAYAeKLYUCHEVAYA",
    "dGROMNAYAeWITH SINGLE ZAPYATAYAdGROMOKRYZHEVAYAePOVODNAYAdGROMOPOVODNAYA",
    "eWITH DOUBLE ZAPYATAYAfSINGLE ZAPYATAYAdKLYUCHENEPOSTOYANNAYAdKLYUCHEPOVODNAYAdKRYUKOVAYA",
    "eGROMNAYAfWITH SINGLE ZAPYATAYAeGROMOKRYZHEVAYAfPOVODNAYAeGROMOPOVODNAYA",
    "fWITH DOUBLE ZAPYATAYAgSINGLE ZAPYATAYAePOVODNAYAeTRYASKAdKRYZHEVAYAdMRACHNOTIKHAYA",
    "dNEPOSTOYANNAYAdPOLUPOVODNAYAdPOVODNAYAdPROSTAYAdTIKHAYA PUTNAYAdTRYASOGLASNAYA",
    "dTRYASOPOVODNAYAdTRYASOSTRELNAYAcVRAKHIYA KLYUCHEVAYA MRACHNAYAePROSTAYAeSVETLAYA",
    "eTRESVETLAYAdMRACHNAYAdPROSTAYAdSVETLAYAdTRESVETLAYAcZANOZHEKcZAPYATAYAcZMEYTSA",
    "bPRIZNAK MODIFIER DIRECTION FLIPdKRYZHdLEVEL-2dLEVEL-3dROGaZOMBIEaZWJaZWNBSPaZWNJaZWSP"]

end Jet.Text.CharacterName
