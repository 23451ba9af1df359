/-!
# Names of characters: S

The names that begin with the letter S, in order.  A small letter stands in front of
each name and says how many words the name shares with the one before, `a` for none; only the other
words are given.
-/

namespace Jet.Text.CharacterName

/-- The names that begin with the letter S. -/
def namesS : List String :=
  ["aS IN TRIANGLEaSAFETY PINbVESTaSAGITTARIUSaSAILBOATaSAKE BOTTLE AND CUPaSALT SHAKERaSALTIRE",
    "aSALUTING FACEaSAMARITAN ABBREVIATION MARKbLETTER ALAFcBAAcBITcDALATcFIcGAMANcINcITcIYcKAAF",
    "cLABATcMIMcNUNcQUFcRISHcSHANcSINGAATcTAAFcTITcTSAADIYcYUTcZENbMARK DAGESHcEPENTHETIC YUTcIN",
    "cIN-ALAFcNEQUDAAcOCCLUSIONbMODIFIER LETTER EPENTHETIC YUTdIdSHORT AbPUNCTUATION AFSAAQcANGED",
    "cANNAAUcARKAANUcATMAAUcBAUcMELODIC QITSAcNEQUDAAcQITSAcSHIYYAALAAcSOF MASHFAATcTURUcZAEF",
    "cZIQAAbVOWEL SIGN AdAAdEdIdLONG AeAAeEeIeUdOdOVERLONG AeAAdSHORT AdSUKUNdUaSANDWICH",
    "aSANS-SERIF HEAVY DOUBLE COMMA QUOTATION MARK ORNAMENTdTURNED COMMA QUOTATION MARK ORNAMENT",
    "cLOW DOUBLE COMMA QUOTATION MARK ORNAMENTbINTERROBANG ORNAMENTaSARIaSATELLITEbANTENNAaSATURN",
    "aSAURASHTRA CONSONANT SIGN HAARUbDANDAbDIGIT EIGHTcFIVEcFOURcNINEcONEcSEVENcSIXcTHREEcTWO",
    "cZERObDOUBLE DANDAbLETTER AcAAcAIcAUcBAcBHAcCAcCHAcDAcDDAcDDHAcDHAcEcEEcGAcGHAcHAcIcIIcJA",
    "cJHAcKAcKHAcLAcLLAcMAcNAcNGAcNNAcNYAcOcOOcPAcPHAcRAcSAcSHAcSSAcTAcTHAcTTAcTTHAcUcUUcVA",
    "cVOCALIC LdLLdRdRRcYAbSIGN ANUSVARAcCANDRABINDUcVIRAMAcVISARGAbVOWEL SIGN AAdAIdAUdEdEEdIdII",
    "dOdOOdUdUUdVOCALIC LeLLeReRRaSAUROPODaSAXOPHONEaSCALESaSCARFaSCHOOLbSATCHELaSCIaSCOOTER",
    "aSCORPIONaSCORPIUSaSCREENaSCREWDRIVERaSCRIPT CAPITAL BcEcFcHcIcLcMcPcRbLIGATURE ET ORNAMENT",
    "bSMALL EcGcLcOaSCROLLaSCRUPLEaSEALaSEATaSECOND PLACE MEDALaSECTION SIGNaSECTORaSEDNA",
    "aSEE-NO-EVIL MONKEYaSEEDLINGaSEGMENTaSEGMENTED DIGIT EIGHTcFIVEcFOURcNINEcONEcSEVENcSIX",
    "cTHREEcTWOcZEROaSELFIEaSEMICOLONaSEMIDIRECT PRODUCT WITH BOTTOM CLOSEDaSEMISEXTILE",
    "aSEPARATED SYMBOLaSERIOUS FACE WITH SYMBOLS COVERING MOUTHaSERVICE MARKaSESAME DOT",
    "aSESQUIQUADRATEaSET MINUSbTRANSMIT STATEaSEWING NEEDLEaSEXTILEaSGCaSHADOWED WHITE CIRCLE",
    "cLATIN CROSScSTARaSHALLOW PAN OF FOODaSHAMROCKaSHARADA ABBREVIATION SIGNbCONTINUATION SIGN",
    "bDANDAbDIGIT EIGHTcFIVEcFOURcNINEcONEcSEVENcSIXcTHREEcTWOcZERObDOUBLE DANDAbEKAM",
    "bEXTRA SHORT VOWEL MARKbHEADSTROKEbLETTER AcAAcAIcAUcBAcBHAcCAcCHAcDAcDDAcDDHAcDHAcEcGAcGHA",
    "cHAcIcIIcJAcJHAcKAcKHAcLAcLLAcMAcNAcNGAcNNAcNYAcOcPAcPHAcRAcSAcSHAcSSAcTAcTHAcTTAcTTHAcUcUU",
    "cVAcVOCALIC LdLLdRdRRcYAbOMbSANDHI MARKbSECTION MARK-1cMARK-2bSEPARATORbSIGN ANUSVARA",
    "cAVAGRAHAcCANDRABINDUcINVERTED CANDRABINDUcJIHVAMULIYAcNUKTAcSIDDHAMcUPADHMANIYAcVIRAMA",
    "cVISARGAbSUTRA MARKbVOWEL MODIFIER MARKcSIGN AAdAIdAUdEdIdIIdOdPRISHTHAMATRA EdUdUU",
    "dVOCALIC LeLLeReRRaSHARKaSHAVED ICEaSHAVIAN LETTER ADOcAGEcAHcAIRcAREcARRAYcASHcAWEcBIB",
    "cCHURCHcDEADcEARcEATcEGGcERRcFEEcGAGcHA-HAcHUNGcIANcICEcIFcJUDGEcKICKcLOLLcMEASUREcMIMEcNUN",
    "cOAKcOILcONcOOZEcORcOUTcPEEPcROARcSOcSUREcTHEYcTHIGHcTOTcUPcVOWcWOEcWOOLcYEAcYEWcZOOaSHEEP",
    "aSHIELDaSHIFT INbOUTaSHINTO SHRINEaSHIPaSHOCKED FACE WITH EXPLODING HEADaSHOOTING STAR",
    "aSHOPPING BAGSbTROLLEYaSHORT BACKSLANTED SOUTH ARROW",
    "bBENT ARROW POINTING DOWNWARDS THEN NORTH EASTbDOWN TACKdWITH OVERBARbLEFT TACK",
    "bRIGHTWARDS ARROW ABOVE LEFTWARDS ARROWbSLANTED NORTH ARROWbUP TACKdABOVE SHORT DOWN TACK",
    "dWITH UNDERBARaSHORTCAKEaSHORTHAND FORMAT CONTINUING OVERLAPcDOWN STEPcLETTER OVERLAP",
    "cUP STEPaSHORTSaSHOULDERED OPEN BOXaSHOWERaSHRIMPaSHRUGaSHUFFLE PRODUCTaSHYaSIaSIDDHAM DANDA",
    "bDOUBLE DANDAbEND OF TEXT MARKbLETTER AcAAcAIcALTERNATE UcAUcBAcBHAcCAcCHAcDAcDDAcDDHAcDHAcE",
    "cGAcGHAcHAcIcIIcJAcJHAcKAcKHAcLAcMAcNAcNGAcNNAcNYAcOcPAcPHAcRAcSAcSHAcSSAcTAcTHA",
    "cTHREE-CIRCLE ALTERNATE IcTTAcTTHAcTWO-CIRCLE ALTERNATE IeIIcUcUUcVAcVOCALIC LdLLdRdRRcYA",
    "bREPETITION MARK-1cMARK-2cMARK-3bSECTION MARK DOUBLE RINGfWITH RAYS",
    "dWITH CIRCLES AND FOUR ENCLOSURESgRAYSgTWO ENCLOSURESeDOUBLE CRESCENTSeQUADRUPLE CRESCENTS",
    "eRAYS AND DOTTED CRESCENTShDOUBLE CRESCENTShTRIPLE CRESCENTSeSEPTUPLE CRESCENTS",
    "eTRIDENT AND DOTTED CRESCENTSgU-SHAPED ORNAMENTSeTRIPLE CRESCENTSbSEPARATOR BARcDOT",
    "bSIGN ANUSVARAcCANDRABINDUcNUKTAcSIDDHAMcVIRAMAcVISARGAbVOWEL SIGN AAdAIdALTERNATE UeUUdAUdE",
    "dIdIIdOdUdUUdVOCALIC ReRRaSIDEWAYS BLACK DOWN POINTING INDEXcLEFT POINTING INDEX",
    "cRIGHT POINTING INDEXcUP POINTING INDEXbWHITE DOWN POINTING INDEXcLEFT POINTING INDEX",
    "cRIGHT POINTING INDEXcUP POINTING INDEXaSIGN OF THE HORNS",
    "aSIGNWRITING AIR BLOW SMALL ROTATIONScBLOWING OUTcSUCK SMALL ROTATIONScSUCKING IN",
    "bBREATH EXHALEcINHALEbBRUSH BETWEENcMULTIPLEcSINGLEbCHEEKS NEUTRALcPUFFEDcSUCKEDbCOLONbCOMMA",
    "bDREAMY EYEBROWS DOWN NEUTRALdNEUTRAL DOWNeUPdUP NEUTRALbDYNAMIC ARROWHEAD LARGEdSMALL",
    "cEVERY OTHER TIMEcFASTcGRADUALcRELAXEDcSIMULTANEOUSdALTERNATINGcSLOWcTENSEbEARSbEXCITEMENT",
    "bEYE BLINK MULTIPLEdSINGLEcWINKbEYEBROWS STRAIGHT DOWNdNEUTRALdUPbEYEGAZE-FLOORPLANE CURVED",
    "cSTRAIGHTdALTERNATINGdDOUBLEbEYEGAZE-WALLPLANE CIRCLINGcCURVEDcSTRAIGHTdALTERNATINGdDOUBLE",
    "bEYELASHES DOWNcFLUTTERINGcUPbEYES CLOSEDcHALF CLOSEDdOPENcOPENcSQUEEZEDcWIDE OPEN",
    "cWIDENING MOVEMENTbFACE DIRECTION POSITION NOSE FORWARD TILTINGfUP OR DOWNiTILTING",
    "bFILL MODIFIER-2cMODIFIER-3cMODIFIER-4cMODIFIER-5cMODIFIER-6bFINGERbFLICK LARGE MULTIPLE",
    "dSINGLEcSEQUENTIALcSMALL MULTIPLEdSINGLEbFLOORPLANE SHOULDER HIP MOVEbFOREHEAD CONTACT",
    "cNEUTRALcWRINKLEDbFULL STOPbGRASP BETWEENcMULTIPLEcSINGLEbHAIRbHAND-ANGLEcINDEX",
    "dMIDDLE LITTLEeRINGdRING LITTLEfOUTdTHUMBeINeOUTcLITTLE INDEXeTHUMB INDEX THUMBhOUTdUP",
    "cMIDDLE RING LITTLEfINfOUTcRING DOWN MIDDLE THUMB INDEX CROSSdLITTLEbHAND-CIRCLEcINDEXdBENT",
    "dHINGEdMIDDLEeCROSS LITTLEeCROSSEDeLITTLEeRINGeTHUMBdRING LITTLEcLITTLE INDEXdUP",
    "cMIDDLE RING LITTLEfBENTdUPcRING LITTLEbHAND-CLAWcFOUR FINGERS CONJOINED",
    "cINDEX THUMB CURVE THUMB INSIDEcMIDDLE RING LITTLE CONJOINEDgSIDEcNO THUMBcTHUMB FORWARD",
    "dSIDEbHAND-CUPcFIVE FINGERS SPREADfOPENcINDEXdRING LITTLEdTHUMBeOPENcMIDDLE RING LITTLE",
    "cNO THUMBcOPENdNO THUMBdTHUMB FORWARDeSIDEcTHUMB FORWARDdSIDEbHAND-CURLICUE",
    "cINDEX RING LITTLE ONcMIDDLE RING LITTLE ONcOPENbHAND-FISTcFOUR FINGERS CONJOINED BENTcHEEL",
    "cINDEXdBENTeOVER MIDDLEdCUPPEDdHINGEDeLOWeMIDDLE UPgTHUMB SIDEdMIDDLEeBENTfTHUMB STRAIGHT",
    "eCONJOINEDfCUPPEDgTHUMB FORWARDfHINGEDgTHUMB SIDEfINDEX BENTfMIDDLE BENTfTHUMB FORWARDgSIDE",
    "hBENThCONJOINEDeCROSS LITTLEeCROSSEDfTHUMB SIDEeHINGEDfSPREAD THUMB SIDEeLITTLE",
    "eRAISED KNUCKLESeRINGfBENTfCONJOINEDeSTRAIGHT THUMB BENTeTHUMBfANGLEDgOUTfBENTfCIRCLED",
    "fCONJOINED HINGEDfCUPPEDfHINGEDfHOOKEDeUP SPREAD THUMB FORWARDdRAISED KNUCKLEdRING LITTLE",
    "dTHUMB ANGLED IN MIDDLE UPfOUT MIDDLE UPeCIRCLEeCIRCLED MIDDLE UPeCUPPED MIDDLE UPeCURLICUE",
    "eCURVE THUMB INSIDEgUNDEReFORWARD INDEX BENTgSTRAIGHTeHOOKeHOOKED MIDDLE HINGEDgUPeSIDE",
    "fBOTH BENTfINDEX BENTgHINGEfTHUMB BENTgCONJOINEDgDIAGONALdUP MIDDLE HINGEDgTHUMB CONJOINED",
    "hSIDEcLITTLE BENTdDOWNeOTHERS CIRCLEDeRIPPLE CURVEDfSTRAIGHTdINDEXeTHUMBdRAISED KNUCKLE",
    "dTHUMBdTOUCHES THUMBdUPcMIDDLE BENT OVER INDEXdDOWNdLITTLEdRAISED KNUCKLEdRING LITTLE",
    "dTHUMB ANGLED INDEX UPfOUT INDEX CROSSEDhUPeCIRCLED INDEX HINGEDgUPeCUPPED INDEX UP",
    "eHOOKED INDEX UPeLITTLEdUPeTHUMB SIDEcRING DOWNdINDEXdLITTLEdMIDDLEeCONJOINED",
    "eRAISED KNUCKLESdRAISED KNUCKLEdTHUMBdUPcTHUMBdBETWEEN INDEX MIDDLEgSTRAIGHTeMIDDLE RING",
    "eRING LITTLEdFORWARDdHEELdOVER FOUR RAISED KNUCKLESeTWO FINGERSdSIDE BENTeCONJOINEDeDIAGONAL",
    "dUNDER FOUR FINGERSeINDEX BENTeLITTLE UPeTHREE FINGERSeTWO FINGERSbHAND-FLAT",
    "cBETWEEN PALM FACINGScFIVE FINGERS SPREADfBENTfFOUR BENTfHINGEDgNO THUMBgTHUMB SIDE",
    "fTHUMB FORWARDcFOUR FINGERSeBENTeCONJOINEDfSPLITeHINGEDcHEELdFIVE FINGERS SPREADgBENT",
    "gFOUR BENTdTHUMB SIDEcSPLIT CENTREeTHUMB SIDEgBENTdINDEX THUMB SIDEdLITTLEcTHUMB BENT",
    "dFORWARDdSIDEbHAND-HINGEcFIVE FINGERS SPREAD OPENcFOUR FINGERS CONJOINEDcINDEXdHINGED",
    "dMIDDLE LITTLEeRINGfCONJOINEDdRING LITTLEdTHUMBeLARGEeOPENeSIDEeSMALLcLITTLEdINDEXeTHUMB",
    "dTHUMBcMIDDLEdRING LITTLEcNO THUMBcOPENdNO THUMBdTHUMB FORWARDeSIDEcRING",
    "dDOWN INDEX THUMB HOOK MIDDLEcSMALLcTHUMB BETWEEN MIDDLE RINGdSIDEeTOUCHING INDEXbHAND-HOOK",
    "cCURLICUEcINDEX RING LITTLE INfOUTfUNDERcMIDDLE RING LITTLE CONJOINEDgINgOUTdTHUMB",
    "cRING THUMBbHAND-OVALcFIVE FINGERS SPREADcINDEXcLITTLE UPcNO THUMBcRING LITTLEcTHUMB FORWARD",
    "dSIDEbHEADcMOVEMENT CIRCLEcMOVEMENT-FLOORPLANE CURVEdSTRAIGHTcMOVEMENT-WALLPLANE CURVE",
    "dSTRAIGHTdTILTcRIMbLIMB COMBINATIONcLENGTH-1cLENGTH-2cLENGTH-3cLENGTH-4cLENGTH-5cLENGTH-6",
    "cLENGTH-7bLIP LOWER OVER UPPERcUPPER OVER LOWERbLIPS PRESSED TOGETHERbLOCATION DEPTH",
    "cHEAD NECKcHEIGHTcLIMBS DIGITScTORSOcWIDTHbLOCATION-FLOORPLANE SPACE",
    "bLOCATION-WALLPLANE SPACEbMOUTH CLOSED CONTACTdFORWARDdNEUTRALcCORNERScFROWNdOPENdWRINKLED",
    "cKISSdFORWARDdWRINKLEDcOPEN CIRCLEdFORWARDdOVALeWRINKLEDeYAWNdRECTANGLEeWRINKLEDeYAWN",
    "dWRINKLEDcSMILEdOPENdWRINKLEDcTENSEdFORWARDdSUCKEDcWRINKLES DOUBLEdSINGLE",
    "bMOVEMENT-DIAGONAL AWAY LARGEdLARGESTdMEDIUMdSMALLcBETWEEN AWAY LARGEeLARGESTeMEDIUMeSMALL",
    "dTOWARDS LARGEeLARGESTeMEDIUMeSMALLcTOWARDS LARGEdLARGESTdMEDIUMdSMALL",
    "bMOVEMENT-FLOORPLANE ARM CIRCLE HITTING WALL LARGE DOUBLEhSINGLEgMEDIUM DOUBLEhSINGLE",
    "gSMALL DOUBLEhSINGLEcBENDcBOX LARGEdMEDIUMdSMALLcCHECKcCORNER LARGEdMEDIUMdSMALLcCROSS",
    "cCURVE COMBINEDdHITTING CEILING LARGEfSMALLeFLOOR LARGEfSMALLdLARGEdLARGESTdMEDIUMdSMALL",
    "cDOUBLE ALTERNATINGeWRIST FLEXdSTRAIGHTdWRIST FLEXcFINGER CIRCLES HITTING WALL DOUBLEgSINGLE",
    "dCONTACTcHUMP HITTING CEILING LARGE DOUBLEgTRIPLEfSMALL DOUBLEgTRIPLEeFLOOR LARGE DOUBLE",
    "fSMALL DOUBLEfTRIPLE LARGE TRIPLEgSMALL TRIPLEdSMALLcJAWcLOOP HITTING CEILING LARGE DOUBLE",
    "gSINGLEfSMALL DOUBLEgSINGLEeFLOOR LARGE DOUBLEgSINGLEfSMALL DOUBLEgSINGLEdSMALLcPEAKS LARGE",
    "dMEDIUMdSMALLcSHAKING PARALLELcSINGLE STRAIGHT LARGEeLARGESTeMEDIUMeSMALLdWRIST FLEX",
    "cTRIPLE ALTERNATING MOVEMENTeWRIST FLEXdSTRAIGHT MOVEMENTdWRIST FLEX",
    "cWAVE HITTING CEILING LARGEfSMALLeFLOOR LARGEfSMALLdLARGEdSMALLdSNAKE",
    "cWRIST CIRCLE HITTING WALL DOUBLEgSINGLEcZIGZAG LARGEdMEDIUMdSMALL",
    "bMOVEMENT-HINGE DOWN SEQUENTIALcSIDE TO SIDE SCISSORScUP DOWN ALTERNATING LARGEfSMALLeLARGE",
    "eSMALLdSEQUENTIALbMOVEMENT-WALLPLANE ARM CIRCLE MEDIUM DOUBLEfSINGLEeSMALL DOUBLEfSINGLE",
    "cBEND LARGEdMEDIUMdSMALLcBOX LARGEdMEDIUMdSMALLcCHECK LARGEdMEDIUMdSMALLcCORNER LARGEdMEDIUM",
    "dROTATIONdSMALLcCROSScCURVE HALF-CIRCLE LARGEeLARGESTeMEDIUMeSMALLdHITTING CHESTeFRONT WALL",
    "dQUARTER LARGEeLARGESTeMEDIUMeSMALLdTHEN STRAIGHTdTHREE-QUARTER CIRCLE MEDIUMfSMALL",
    "cCURVED CROSS MEDIUMeSMALLcDOUBLE ALTERNATINGeWRIST FLEXdSTRAIGHTdWRIST FLEX",
    "cFINGER CIRCLES DOUBLEeSINGLEdCONTACTcHUMP HITTING CHESTeFRONT WALLdLARGEdMEDIUMdSMALLcJAW",
    "cLOOP HITTING CHESTeFRONT WALLdLARGEdMEDIUMdSMALLeDOUBLEcPEAKS LARGEdMEDIUMdSMALLcSHAKING",
    "cSINGLE STRAIGHT LARGEeLARGESTeMEDIUMeSMALLdWRIST FLEXcTRIPLE ALTERNATINGeWRIST FLEX",
    "dSTRAIGHT MOVEMENTdWRIST FLEXcWAVE CURVE DOUBLE LARGEfMEDIUMfSMALLeTRIPLE LARGEfMEDIUMfSMALL",
    "dDIAGONAL PATH LARGEfMEDIUMfSMALLdHITTING CHESTeFRONT WALLcWRIST CIRCLE FRONT DOUBLEfSINGLE",
    "cZIGZAG LARGEdMEDIUMdSMALLbNECKbNOSE CONTACTcNEUTRALcWIGGLEScWRINKLESbPARENTHESIS",
    "bROTATION MODIFIER-10cMODIFIER-11cMODIFIER-12cMODIFIER-13cMODIFIER-14cMODIFIER-15",
    "cMODIFIER-16cMODIFIER-2cMODIFIER-3cMODIFIER-4cMODIFIER-5cMODIFIER-6cMODIFIER-7cMODIFIER-8",
    "cMODIFIER-9bROTATION-FLOORPLANE ALTERNATINGdHITTING CEILINGeFLOORcDOUBLEdHITTING CEILING",
    "eFLOORcSINGLEdHITTING CEILINGeFLOORbROTATION-WALLPLANE ALTERNATEcALTERNATING HITTING CHEST",
    "eFRONT WALLcDOUBLEdHITTING CHESTeFRONT WALLcSINGLEdHITTING CHESTeFRONT WALLbRUB BETWEEN",
    "cMULTIPLEcSINGLEbSEMICOLONbSHOULDER HIP POSITIONSdSPINEcTILTING FROM WAIST",
    "bSQUEEZE FLICK ALTERNATINGcLARGE MULTIPLEdSINGLEcSEQUENTIALcSMALL MULTIPLEdSINGLE",
    "bSTRIKE BETWEENcMULTIPLEcSINGLEbSURFACE BETWEENcSYMBOLSbTEETHcBITE LIPScMOVEMENTcON LIPS",
    "eMOVEMENTdTONGUEeMOVEMENTbTENSE CHEEKS HIGHdLOWdMIDDLEbTONGUE CENTRE INSIDE MOUTH",
    "dSTICKING OUTcINSIDE MOUTH RELAXEDcLICKING LIPScMOVES AGAINST CHEEKcSTICKING OUT FAR",
    "cTIP BETWEEN LIPSdTOUCHING INSIDE MOUTHbTORSO-FLOORPLANE TWISTING",
    "bTORSO-WALLPLANE CURVED BENDcSTRAIGHT STRETCHbTOUCH BETWEENcMULTIPLEcSINGLE",
    "bTRAVEL-FLOORPLANE ROTATION-FLOORPLANE ALTERNATINGdDOUBLEdSINGLE",
    "cROTATION-WALLPLANE ALTERNATINGdDOUBLEdSINGLEcSHAKINGbTRAVEL-WALLPLANE ARM SPIRAL DOUBLE",
    "eSINGLEeTRIPLEcROTATION-FLOORPLANE ALTERNATINGdDOUBLEdSINGLEcROTATION-WALLPLANE ALTERNATING",
    "dDOUBLEdSINGLEcSHAKINGbUPPER BODY TILTING FROM HIP JOINTSbWALLPLANE SHOULDER HIP MOVE",
    "aSILHOUETTE OF JAPANaSIMILAR ABOVE GREATER-THAN ABOVE EQUALS SIGN",
    "cLESS-THAN ABOVE EQUALS SIGNbMINUS SIMILARbOR GREATER-THANcLESS-THANaSINE WAVE",
    "aSINGLE CHARACTER INTRODUCERbGRAPHIC CHARACTER INTRODUCERbHIGH-REVERSED-9 QUOTATION MARK",
    "bLEFT-POINTING ANGLE QUOTATION MARKbLOW-9 QUOTATION MARKbRIGHT-POINTING ANGLE QUOTATION MARK",
    "bSHIFT THREEcTWOaSINGLE-SHIFT-2aSINGLE-SHIFT-3aSINHALA ARCHAIC DIGIT EIGHTdFIVEdFOURdNINE",
    "dONEdSEVENdSIXdTHREEdTWOcNUMBER EIGHTYdFIFTYdFORTYdNINETYdONE HUNDREDeTHOUSANDdSEVENTYdSIXTY",
    "dTENdTHIRTYdTWENTYbLETTER AAYANNAcAEEYANNAcAEYANNAcAIYANNAcALPAPRAANA BAYANNAdCAYANNA",
    "dDAYANNAdDDAYANNAdGAYANNAdJAYANNAdKAYANNAdPAYANNAdTAYANNAdTTAYANNAcAMBA BAYANNAcAUYANNA",
    "cAYANNAcDANTAJA LAYANNAdNAYANNAdSAYANNAcEEYANNAcEYANNAcFAYANNAcHAYANNAcIIYANNAcILUUYANNA",
    "cILUYANNAcIRUUYANNAcIRUYANNAcIYANNAcKANTAJA NAASIKYAYAcMAHAAPRAANA BAYANNAdCAYANNAdDAYANNA",
    "dDDAYANNAdGAYANNAdJAYANNAdKAYANNAdPAYANNAdTAYANNAdTTAYANNAcMAYANNAcMUURDHAJA LAYANNAdNAYANNA",
    "dSAYANNAcOOYANNAcOYANNAcRAYANNAcSANYAKA DAYANNAdDDAYANNAdGAYANNAdJAYANNAcTAALUJA NAASIKYAYA",
    "dSANYOOGA NAAKSIKYAYAdSAYANNAcUUYANNAcUYANNAcVAYANNAcYAYANNAbLITH DIGIT EIGHTdFIVEdFOURdNINE",
    "dONEdSEVENdSIXdTHREEdTWOdZERObPUNCTUATION KUNDDALIYAbSIGN AL-LAKUNAcANUSVARAYAcCANDRABINDU",
    "cVISARGAYAbVOWEL SIGN AELA-PILLAdDIGA AEDA-PILLAeGAETTA-PILLAeGAYANUKITTAeIS-PILLAeKOMBUVA",
    "ePAA-PILLAdGAETTA-PILLAdGAYANUKITTAdKETTI AEDA-PILLAeIS-PILLAePAA-PILLAdKOMBU DEKAdKOMBUVA",
    "eHAA AELA-PILLAfDIGA AELA-PILLAfGAYANUKITTAaSIX PETALLED BLACK AND WHITE FLORETTE",
    "bPOINTED BLACK STARcPINWHEEL STARcSTAR WITH MIDDLE DOTaSIX-PER-EM SPACE",
    "aSIXTEEN POINTED ASTERISKaSKATEBOARDaSKI AND SKI BOOTaSKIERaSKULLbAND CROSSBONESaSKUNK",
    "aSLANTED EQUAL TO OR GREATER-THANfWITH DOT INSIDEeLESS-THANfWITH DOT INSIDE",
    "bNORTH ARROW WITH HOOKED HEADeHORIZONTAL TAILaSLAVONIC ASTERISKaSLEDaSLEEPING ACCOMMODATION",
    "bFACEbSYMBOLaSLEEPY FACEaSLEUTH OR SPYaSLICE OF PIZZAaSLIGHTLY FROWNING FACEbSMILING FACE",
    "aSLOPEaSLOPING LARGE ANDcORaSLOT MACHINEaSLOTHaSMALL AIRPLANEbAMPERSANDbASTERISK",
    "bBLUE DIAMONDbCOLONbCOMMAbCOMMERCIAL ATbCONTAINS AS MEMBERcWITH OVERBAR",
    "dVERTICAL BAR AT END OF HORIZONTAL STROKEbDOLLAR SIGNbELEMENT OFdWITH OVERBAR",
    "eVERTICAL BAR AT END OF HORIZONTAL STROKEbEM DASHbEQUALS SIGNbEXCLAMATION MARKbFULL STOP",
    "bGREATER-THAN SIGNbHYPHEN-MINUSbIDEOGRAPHIC COMMAbLEFT CURLY BRACKETcPARENTHESIS",
    "cTORTOISE SHELL BRACKETbLESS-THAN SIGNbNUMBER SIGNbORANGE DIAMONDbPERCENT SIGNbPLUS SIGN",
    "bQUESTION MARKbREVERSE SOLIDUSbRIGHT CURLY BRACKETcPARENTHESIScTORTOISE SHELL BRACKET",
    "bROMAN NUMERAL EIGHTdELEVENdFIFTYdFIVEeHUNDREDdFOURdNINEdONEeHUNDREDeTHOUSANDdSEVENdSIXdTEN",
    "dTHREEdTWELVEdTWObSEMICOLONbTILDEbTWO DOTS OVER ONE DOT PUNCTUATIONbVEE WITH UNDERBAR",
    "aSMALLER THANcOR EQUAL TOaSMASH PRODUCTaSMILEaSMILING CAT FACE WITH HEART-SHAPED EYES",
    "eOPEN MOUTHbFACE WITH HALOdHEART-SHAPED EYESdHORNSdOPEN MOUTHfAND COLD SWEATgSMILING EYES",
    "gTIGHTLY-CLOSED EYESdSMILING EYESfAND HAND COVERING MOUTHgTHREE HEARTSdSUNGLASSESdTEAR",
    "aSMIRKING FACEaSMOKING SYMBOLaSNAILaSNAKEaSNEEZING FACEaSNOW CAPPED MOUNTAINaSNOWBOARDER",
    "aSNOWFLAKEaSNOWMANbWITHOUT SNOWaSOaSOCCER BALLaSOCKSaSOFT HYPHENbICE CREAMbSHELL FLOPPY DISK",
    "aSOFTBALLaSOFTWARE-FUNCTION SYMBOLaSOGDIAN COMBINING CURVE ABOVEdBELOWcDOT ABOVEdBELOW",
    "cHOOK ABOVEdBELOWcLONG HOOK BELOWcRESH BELOWcSTROKE BELOWcTWO DOTS ABOVEeBELOW",
    "bINDEPENDENT SHINbLETTER ALEPHcAYINcBETHcFETHcGIMELcHEcHETHcKAPHcLAMEDHcLESHcMEMcNUNcPE",
    "cRESH-AYINcSADHEcSAMEKHcSHINcTAWcWAWcYODHcZAYINbNUMBER ONEdHUNDREDcTENcTWENTY",
    "bPUNCTUATION CIRCLE WITH DOTcHALF CIRCLE WITH DOTcTWO CIRCLES WITH DOTSdVERTICAL BARS",
    "fWITH DOTSaSOHaSOLID QUILT SQUARE ORNAMENTeIN BLACK SQUAREaSOLIDUSbWITH OVERBARaSOM SIGN",
    "aSOON WITH RIGHTWARDS ARROW ABOVEaSORA SOMPENG DIGIT EIGHTdFIVEdFOURdNINEdONEdSEVENdSIX",
    "dTHREEdTWOdZEROcLETTER AHdBAHdCAHdDAHdEEHdEHdGAHdHAHdIHdJAHdKAHdLAHdMAEdMAHdNAHdNGAHdNYAHdOH",
    "dPAHdRAHdSAHdTAHdUHdVAHdYAHaSOSaSOUND RECORDING COPYRIGHTaSOUTH EAST ARROW",
    "dAND SOUTH WEST ARROWdCROSSING NORTH EAST ARROWdTO CORNERdWITH HOOKcBLACK ARROWcDOUBLE ARROW",
    "cPOINTING BUDdLEAFdVINE LEAFcSANS-SERIF ARROWcTRIANGLE-HEADED ARROWeTO BARcWHITE ARROW",
    "bWEST ARROWdAND NORTH WEST ARROWdWITH HOOKcBLACK ARROWcDOUBLE ARROWcPOINTING BUDdLEAF",
    "dVINE LEAFcSANS-SERIF ARROWcTRIANGLE-HEADED ARROWeTO BARcWHITE ARROW",
    "aSOYOMBO CLUSTER-INITIAL LETTER LAdRAdSAdSHAbFINAL CONSONANT SIGN -AeBeDeGeKeLeMeNeNGeReSeSH",
    "bGEMINATION MARKbHEAD MARK WITH MOON AND SUNhAND FLAMEiTRIPLE FLAMEbLETTER -AcAcBAcBHAcCA",
    "cCHAcDAcDDAcDDHAcDHAcDZAcGAcGHAcHAcJAcJHAcKAcKHAcKSSAcLAcMAcNAcNGAcNNAcNYAcPAcPHAcRAcSAcSHA",
    "cSSAcTAcTHAcTSAcTSHAcTTAcTTHAcVAcYAcZAcZHAbMARK DOUBLE SHADcPLUTAcSHADcTSHEGbSIGN ANUSVARA",
    "cJIHVAMULIYAcUPADHMANIYAcVISARGAbSUBJOINERbTERMINAL MARK-1cMARK-2bVOWEL LENGTH MARKcSIGN AI",
    "dAUdEdIdOdOEdUdUEdVOCALIC LeRaSPaSPAaSPACEaSPAGHETTIaSPARKLEaSPARKLESaSPARKLING HEART",
    "aSPEAK-NO-EVIL MONKEYaSPEAKERbWITH CANCELLATION STROKEcONE SOUND WAVEcTHREE SOUND WAVES",
    "aSPEAKING HEAD IN SILHOUETTEaSPEECH BALLOONaSPEEDBOATaSPESMILO SIGNaSPHERICAL ANGLE",
    "cOPENING LEFTdUPaSPIDERbWEBaSPIRAL CALENDAR PADbNOTE PADbSHELLaSPLASHING SWEAT SYMBOLaSPONGE",
    "aSPOOL OF THREADaSPOONaSPORTS MEDALaSPOUTING WHALEaSQUARE A OVER MbAARUbAMbANPEAbAPAATO",
    "bARUHUAbAUbBAARERUbBARbBEETAbBIRUbBORUTObBQbBUSSYERUbC OVER KGbCALbCAPbCCbCDbCMcCUBED",
    "cSQUAREDbCObCORPORATIONbCUPbDAbDAASUbDBbDESIbDJbDLbDMcCUBEDcSQUAREDbDORUbEEKAA",
    "bERA NAME HEISEIdMEIZIdREIWAdSYOUWAdTAISYOUbERGbESUKUUDObEVbFMbFOOTbFOUR CORNERSbGALbGANMA",
    "bGARONbGBbGHZbGIGAbGINIIbGIRUDAAbGPAbGURAMUbGURAMUTONbGYbHAbHAITUbHEKUTAARUbHERUTUbHG",
    "bHIRAGANA HOKAbHONbHOONbHOORUbHPbHPAbHUARADDObHUIITObHURANbHZbIMAGE OFdOR EQUAL TO",
    "eNOT EQUAL TObINbININGUbINTIbIUbK OHMbKAbKAIRIbKARATTObKARORIIbKBbKCALbKEESUbKGbKHZbKIRO",
    "bKIROGURAMUbKIROMEETORUbKIROWATTObKKbKLbKMcCAPITALcCUBEDcSQUAREDbKOOPObKORUNAbKPAbKTbKUROONE",
    "bKURUZEIRObKVbKWbKYURIIbLEFT OPEN BOX OPERATORbLMbLNbLOGbLOZENGEbLXbM CUBEDcOHMcOVER S",
    "eSQUAREDcSQUAREDbMAbMAHHAbMAIKURObMAIRUbMANSYONbMARUKUbMBcSMALLbMEETORUbMEGAbMEGATONbMGbMHZ",
    "bMIKURONbMILbMIRIbMIRIBAARUbMLbMMcCUBEDcSQUAREDbMOLbMPAbMSbMU AcFcGcLcMcScVcWbMVcMEGAbMW",
    "cMEGAbNAbNANObNFbNMbNOTTObNSbNVbNWbONSUbOOMUbORIGINAL OFdOR EQUAL TOeNOT EQUAL TObOVbPAcAMPS",
    "bPAASENTObPAATUbPCbPEEZIbPENIHIbPENSUbPESObPFbPHbPIASUTORUbPIKObPIKURUbPMbPOINTObPONDO",
    "bPOSITION INDICATORbPPMbPRbPSbPVbPWbRADcOVER SeSQUAREDbREMUbRENTOGENbRIGHT OPEN BOX OPERATOR",
    "bRIRAbRITTORUbROOTbRUPIIbRUUBURUbSAIKURUbSANTIIMUbSENTIbSENTObSIRINGUbSRbSVbTARGETbTHZbTON",
    "bUONbV OVER MbWATTObWBbWITH BOTTOM HALF BLACKcCONTOURED OUTLINEcDIAGONAL CROSSHATCH FILL",
    "cHORIZONTAL FILLcLEFT HALF BLACKcLOWER LEFT DIAGONAL HALF BLACKdRIGHT DIAGONAL HALF BLACK",
    "cORTHOGONAL CROSSHATCH FILLcRIGHT HALF BLACKcTOP HALF BLACKcUPPER LEFT DIAGONAL HALF BLACK",
    "eTO LOWER RIGHT FILLdRIGHT DIAGONAL HALF BLACKeTO LOWER LEFT FILLcVERTICAL FILLbYAADObYAARU",
    "bYUANaSQUARED ASTERISKbCJK UNIFIED IDEOGRAPH-4E00dIDEOGRAPH-4E09dIDEOGRAPH-4E2D",
    "dIDEOGRAPH-4E8CdIDEOGRAPH-4EA4dIDEOGRAPH-518DdIDEOGRAPH-521DdIDEOGRAPH-524DdIDEOGRAPH-5272",
    "dIDEOGRAPH-53CCdIDEOGRAPH-53F3dIDEOGRAPH-5408dIDEOGRAPH-5439dIDEOGRAPH-55B6dIDEOGRAPH-58F0",
    "dIDEOGRAPH-591AdIDEOGRAPH-5929dIDEOGRAPH-5B57dIDEOGRAPH-5DE6dIDEOGRAPH-5F8CdIDEOGRAPH-624B",
    "dIDEOGRAPH-6253dIDEOGRAPH-6295dIDEOGRAPH-6307dIDEOGRAPH-6355dIDEOGRAPH-6599dIDEOGRAPH-65B0",
    "dIDEOGRAPH-6620dIDEOGRAPH-6708dIDEOGRAPH-6709dIDEOGRAPH-6E80dIDEOGRAPH-6F14dIDEOGRAPH-7121",
    "dIDEOGRAPH-751FdIDEOGRAPH-7533dIDEOGRAPH-7981dIDEOGRAPH-7A7AdIDEOGRAPH-7D42dIDEOGRAPH-89E3",
    "dIDEOGRAPH-8CA9dIDEOGRAPH-8D70dIDEOGRAPH-904AdIDEOGRAPH-914DbCLbCOOLbDOT OPERATORbEIGHT K",
    "bFALLING DIAGONAL SLASHbFIVE POINT ONEbFOUR DOT PUNCTUATIONcKbFREEbHCbHDRbHI-RESbHVbID",
    "bKATAKANA DEcKOKOcSAbKEYbLATIN CAPITAL LETTER AeBeCeDeEeFeGeHeIeJeKeLeMeNeOePeQeReSeTeUeVeW",
    "eXeYeZcSMALL LETTER DbLOGICAL ANDcORbLOSSLESSbMINUSbMVbNEWbNGbOKbONE HUNDRED TWENTY PbPLUS",
    "bPPVbRISING DIAGONAL SLASHbSALTIREbSDbSECOND SCREENbSEVEN POINT ONEbSHVbSIXTY PbSMALL CIRCLE",
    "bSOSbSQUAREbSSbTHREE DbTIMESbTWENTY-TWO POINT TWObTWO KbUHDbUP WITH EXCLAMATION MARKbVODbVS",
    "bWCaSQUAT BLACK RIGHTWARDS ARROWaSQUIDaSS2aSS3aSSAaSTaSTADIUMaSTAFF OF AESCULAPIUScHERMES",
    "aSTAMPED ENVELOPEaSTANDING PERSONaSTAR AND CRESCENTbEQUALSbOF DAVIDbOPERATOR",
    "bWITH LEFT HALF BLACKcRIGHT HALF BLACKaSTART OF GUARDED AREAcHEADINGcPROTECTED AREA",
    "cSELECTED AREAcSTRINGcTEXTaSTATIONaSTATUE OF LIBERTYaSTEAM LOCOMOTIVEaSTEAMING BOWL",
    "aSTENOGRAPHIC FULL STOPaSTETHOSCOPEaSTICK FIGUREcLEANING LEFTdRIGHTcWITH ARMS RAISEDdDRESS",
    "aSTOCK CHARTaSTOPWATCHaSTRAIGHT RULERaSTRAIGHTNESSaSTRAWBERRYaSTRESS OUTLINED WHITE STAR",
    "aSTRICTLY EQUIVALENT TOaSTRING TERMINATORaSTSaSTUDIO MICROPHONEaSTUFFED FLATBREADaSTUPAaSTX",
    "aSUBaSUBSCRIPT EIGHTbEQUALS SIGNbFIVEbFOURbLEFT PARENTHESISbMINUSbNINEbONEbPLUS SIGN",
    "bRIGHT PARENTHESISbSEVENbSIXbTHREEbTWObZEROaSUBSET ABOVE RIGHTWARDS ARROWcSUBSETcSUPERSETbOF",
    "cABOVE ALMOST EQUAL TOdEQUALS SIGNdNOT EQUAL TOdTILDE OPERATORcOR EQUAL TOfWITH DOT ABOVE",
    "cWITH NOT EQUAL TObWITH DOTcMULTIPLICATION SIGN BELOWcPLUS SIGN BELOWaSUBSTITUTEaSUCCEEDS",
    "bABOVE ALMOST EQUAL TOcEQUALS SIGNcNOT ALMOST EQUAL TOdEQUAL TOcSINGLE-LINE EQUALS SIGN",
    "dNOT EQUAL TObBUT NOT EQUIVALENT TObOR EQUAL TOcEQUIVALENT TObUNDER RELATION",
    "aSUMMATION BOTTOMbTOPbWITH INTEGRALaSUNbBEHIND CLOUDbWITH FACEaSUNDANESE AVAGRAHA",
    "bCONSONANT SIGN PAMINGKALdPANYAKRAdPANYIKUdPASANGAN MAeWAbDIGIT EIGHTcFIVEcFOURcNINEcONE",
    "cSEVENcSIXcTHREEcTWOcZERObLETTER AcAEcBAcBHAcCAcDAcEcEUcFAcFINAL KdMcGAcHAcIcJAcKAcKHAcLA",
    "cLEUcMAcNAcNGAcNYAcOcPAcQAcRAcREUcSAcSYAcTAcUcVAcWAcXAcYAcZAbPUNCTUATION BINDU BA SATANGA",
    "dCAKRAdDA SATANGAdKA SATANGAdLEU SATANGAdPANGLONGdPURNAMAdSURYAbSIGN PAMAAEHcPANGLAYAR",
    "cPANGWISADcPANYECEKcVIRAMAbVOWEL SIGN PAMEPETdPANAELAENGdPANEULEUNGdPANGHULUdPANOLONG",
    "dPANYUKUaSUNFLOWERaSUNRISEbOVER MOUNTAINSaSUNSET OVER BUILDINGSaSUPERHEROaSUPERSCRIPT EIGHT",
    "bEQUALS SIGNbFIVEbFOURbLATIN SMALL LETTER IeNbLEFT PARENTHESISbMINUSbNINEbONEbPLUS SIGN",
    "bRIGHT PARENTHESISbSEVENbSIXbTHREEbTWObZEROaSUPERSET ABOVE LEFTWARDS ARROWcSUBSETcSUPERSET",
    "bBESIDE AND JOINED BY DASH WITH SUBSETcSUBSETbOFcABOVE ALMOST EQUAL TOdEQUALS SIGN",
    "dNOT EQUAL TOdTILDE OPERATORcOR EQUAL TOfWITH DOT ABOVEcWITH NOT EQUAL TObPRECEDING SOLIDUS",
    "bWITH DOTcMULTIPLICATION SIGN BELOWcPLUS SIGN BELOWaSUPERVILLAINaSURFACE INTEGRALaSURFER",
    "aSUSHIaSUSPENSION RAILWAYaSWANaSWASH AMPERSAND ORNAMENTaSWIMMERaSWUNG DASH",
    "aSYLOTI NAGRI LETTER AdBHOdBOdCHOdCOdDDHOdDDOdDHOdDOdEdGHOdGOdHOdIdJHOdJOdKHOdKOdLOdMOdNOdO",
    "dPHOdPOdROdRROdSOdTHOdTOdTTHOdTTOdUcPOETRY MARK-1dMARK-2dMARK-3dMARK-4",
    "cSIGN ALTERNATE HASANTAdANUSVARAdDVISVARAdHASANTAcVOWEL SIGN AeEeIeOOeU",
    "aSYMBOL FOR ACKNOWLEDGEcBACKSPACEcBELLcCANCELcCARRIAGE RETURNcDATA LINK ESCAPEcDELETE",
    "dFORM TWOcDEVICE CONTROL FOUReONEeTHREEeTWOcEND OF MEDIUMeTEXTeTRANSMISSIONfBLOCKcENQUIRY",
    "cESCAPEcFILE SEPARATORcFORM FEEDcGROUP SEPARATORcHORIZONTAL TABULATIONcLINE FEED",
    "cMARKS CHAPTERcNEGATIVE ACKNOWLEDGEcNEWLINEcNULLcRECORD SEPARATORcSAMARITAN SOURCEcSHIFT IN",
    "dOUTcSPACEcSTART OF HEADINGeTEXTcSUBSTITUTEdFORM TWOcSYNCHRONOUS IDLEcTYPE A ELECTRONICS",
    "cUNIT SEPARATORcVERTICAL TABULATIONaSYMMETRYaSYNaSYNAGOGUEaSYNCHRONOUS IDLE",
    "aSYRIAC ABBREVIATION MARKbBARREKHbCOLON SKEWED LEFTdRIGHTbCONTRACTIONbDOTTED ZLAMA ANGULAR",
    "dHORIZONTALbEND OF PARAGRAPHbESASA ABOVEcBELOWbFEMININE DOTbHARKLEAN ASTERISCUScMETOBELUS",
    "cOBELUSbHBASA ABOVEcBELOWbHBASA-ESASA DOTTEDbHORIZONTAL COLONbLETTER ALAPHcBETHcDALATH",
    "cDOTLESS DALATH RISHcEcFINAL SEMKATHcGAMALdGARSHUNIcHEcHETHcKAPHcLAMADHcMALAYALAM BHAdJAdLLA",
    "dLLLAdNGAdNNAdNNNAdNYAdRAdSSAdTTAcMIMcNUNcPEcPERSIAN BHETHdDHALATHdGHAMALcQAPHcREVERSED PE",
    "cRISHcSADHEcSEMKATHcSHINcSOGDIAN FEdKHAPHdZHAINcSUPERSCRIPT ALAPHcTAWcTETHdGARSHUNIcWAWcYUDH",
    "dHEcZAINbMUSICbOBLIQUE LINE ABOVEdBELOWbPTHAHA ABOVEcBELOWcDOTTEDbQUSHSHAYAbRBASA ABOVE",
    "cBELOWbRUKKAKHAbRWAHAbSUBLINEAR COLONdSKEWED LEFTeRIGHTcFULL STOPbSUPRALINEAR COLON",
    "dSKEWED LEFTcFULL STOPbTHREE DOTS ABOVEdBELOWbTWO VERTICAL DOTS ABOVEeBELOWbZQAPHA ABOVE",
    "cBELOWcDOTTEDaSYRINGE"]

end Jet.Text.CharacterName
