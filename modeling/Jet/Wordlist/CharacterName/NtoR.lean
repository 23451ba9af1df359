/-!
# Names of characters: N to R

The names that begin with the letters N to R, in order.  A small letter stands in front of
each name and says how many words the name shares with the one before, `a` for none; only the other
words are given.
-/

namespace Jet.Text.CharacterName

/-- The names that begin with the letters N to R. -/
def namesNtoR : List String :=
  ["aN-ARY CIRCLED DOT OPERATORcPLUS OPERATORcTIMES OPERATORbCOPRODUCTbINTERSECTIONbLOGICAL AND",
    "cORbPRODUCTbSQUARE INTERSECTION OPERATORcUNION OPERATORbSUMMATIONbTIMES OPERATORbUNION",
    "cOPERATOR WITH DOTePLUSbWHITE VERTICAL BARaNABATAEAN CRUCIFORM NUMBER FOURbLETTER ALEPHcAYIN",
    "cBETHcDALETHcFINAL ALEPHdBETHdHEdKAPHdLAMEDHdMEMdNUNdSHINdYODHcGIMELcHEcHETHcKAPHcLAMEDHcMEM",
    "cNUNcPEcQOPHcRESHcSADHEcSAMEKHcSHINcTAWcTETHcWAWcYODHcZAYINbNUMBER FIVEcFOURcONEdHUNDREDcTEN",
    "cTHREEcTWENTYcTWOaNABLAaNAIL POLISHaNAIRA SIGNaNAKaNAME BADGEaNANDaNANDINAGARI HEADSTROKE",
    "bLETTER AcAAcAIcAUcBAcBHAcCAcCHAcDAcDDAcDDHAcDHAcEcGAcGHAcHAcIcIIcJAcJHAcKAcKHAcLAcLLAcMAcNA",
    "cNGAcNNAcNYAcOcPAcPHAcRAcRRAcSAcSHAcSSAcTAcTHAcTTAcTTHAcUcUUcVAcVOCALIC RdRRcYA",
    "bSIGN ANUSVARAcAVAGRAHAcSIDDHAMcVIRAMAcVISARGAbVOWEL SIGN AAdAIdAUdEdIdIIdOdPRISHTHAMATRA E",
    "dUdUUdVOCALIC ReRRaNARROW NO-BREAK SPACEaNATIONAL DIGIT SHAPESbPARKaNAUSEATED FACE",
    "aNAZAR AMULETaNBHaNBSPaNECKTIEaNEGATED DOUBLE VERTICAL BAR DOUBLE RIGHT TURNSTILE",
    "aNEGATIVE ACKNOWLEDGEbCIRCLED DIGIT ZEROcLATIN CAPITAL LETTER AfBfCfDfEfFfGfHfIfJfKfLfMfNfO",
    "fPfQfRfSfTfUfVfWfXfYfZcNUMBER EIGHTEENdELEVENdFIFTEENdFOURTEENdNINETEENdSEVENTEENdSIXTEEN",
    "dTHIRTEENdTWELVEdTWENTYcSQUAREcTRIANGLEbDIAGONAL CROSScDIAMONDcMIDDLE RIGHT TO LOWER CENTRE",
    "bSQUARED ABcCROSS MARKcICcLATIN CAPITAL LETTER AfBfCfDfEfFfGfHfIfJfKfLfMfNfOfPfQfRfSfTfUfVfW",
    "fXfYfZcPAcQUESTION MARKcSAcWCaNEITHER A SUBSET OF NOR EQUAL TOcSUPERSET OF NOR EQUAL TO",
    "bAPPROXIMATELY NOR ACTUALLY EQUAL TObGREATER-THAN NOR EQUAL TOdEQUIVALENT TOdLESS-THAN",
    "bLESS-THAN NOR EQUAL TOdEQUIVALENT TOdGREATER-THANaNELaNEPTUNEbFORM TWOaNERD FACEaNESSUS",
    "aNEST WITH EGGSaNESTING DOLLSaNEUTERaNEUTRAL CHESS BISHOPdROTATED NINETY DEGREES",
    "eTWO HUNDRED SEVENTY DEGREEScEQUIHOPPERdROTATED NINETY DEGREEScKINGdROTATED NINETY DEGREES",
    "eTWO HUNDRED SEVENTY DEGREEScKNIGHTdROTATED FORTY-FIVE DEGREESeNINETY DEGREES",
    "eONE HUNDRED THIRTY-FIVE DEGREESeTHREE HUNDRED FIFTEEN DEGREESeTWO HUNDRED SEVENTY DEGREES",
    "gTWENTY-FIVE DEGREEScPAWNdROTATED NINETY DEGREESeTWO HUNDRED SEVENTY DEGREEScQUEEN",
    "dROTATED NINETY DEGREESeTWO HUNDRED SEVENTY DEGREEScROOKdROTATED NINETY DEGREES",
    "eTWO HUNDRED SEVENTY DEGREEScTURNED BISHOPdKINGdKNIGHTdPAWNdQUEENdROOKbFACEaNEW LINE",
    "bMOON SYMBOLcWITH FACEbSHEQEL SIGNbTAI LUE DIGIT EIGHTeFIVEeFOUReNINEeONEeSEVENeSIXeTHREE",
    "eTWOeZEROdLETTER FINAL BfDfKfMfNfNGfVeHIGH BAfDAfFAfHAfKAfKVAfLAfMAfNAfNGAfPAfPHAfQAfSAfSUA",
    "fTAfTHAfTSAfVAfXAfXVAfYAeLOW BAfDAfFAfHAfKAfKVAfLAfMAfNAfNGAfPAfPHAfQAfSAfSUAfTAfTHAfTSAfVA",
    "fXAfXVAfYAdSIGN LAEeLAEVdTHAM DIGIT ONEdTONE MARK-1eMARK-2dVOWEL SIGN AAfAAYfAEfAYfEfIIfIYfO",
    "fOAfOAYfOYfUfUEfUEYfUUfUYfVOWEL SHORTENERaNEWA ABBREVIATION SIGNbCOMMAbDANDAbDIGIT EIGHT",
    "cFIVEcFOURcNINEcONEcSEVENcSIXcTHREEcTWOcZERObDOUBLE COMMAcDANDAbGAP FILLERbINSERTION SIGN",
    "bLETTER AcAAcAIcAUcBAcBHAcCAcCHAcDAcDDAcDDHAcDHAcEcGAcGHAcHAcIcIIcJAcJHAcKAcKHAcLAcLHAcMA",
    "cMHAcNAcNGAcNGHAcNHAcNNAcNYAcNYHAcOcPAcPHAcRAcRHAcSAcSHAcSSAcTAcTHAcTTAcTTHAcUcUU",
    "cVEDIC ANUSVARAcVOCALIC LdLLdRdRRcWAcYAbOMbPLACEHOLDER MARKbSANDHI MARKbSIDDHIbSIGN ANUSVARA",
    "cAVAGRAHAcCANDRABINDUcFINAL ANUSVARAcJIHVAMULIYAcNUKTAcUPADHMANIYAcVIRAMAcVISARGA",
    "bVOWEL SIGN AAdAIdAUdEdIdIIdOdUdUUdVOCALIC LeLLeReRRaNEWLINE LEFTbRIGHTaNEWSPAPERaNEXT LINE",
    "bPAGEaNIGHT WITH STARSaNINJAaNKO COMBINING DOUBLE DOT ABOVEcLONG DESCENDING TONEdHIGH TONE",
    "dLOW TONEdRISING TONEcNASALIZATION MARKcSHORT HIGH TONEdLOW TONEdRISING TONEbCOMMA",
    "bDANTAYALANbDIGIT EIGHTcFIVEcFOURcNINEcONEcSEVENcSIXcTHREEcTWOcZERObDOROME SIGN",
    "bEXCLAMATION MARKbHIGH TONE APOSTROPHEbLAJANYALANbLETTER AcBAcCHAcDAcDAGBASINNAcEcEEcFAcGBA",
    "cHAcIcJAcJONA CHAdJAdRAcKAcLAcMAcNcNAdWOLOSOcNYAdWOLOSOcOcOOcPAcRAcRRAcSAcTAcUcWAcYA",
    "bLOW TONE APOSTROPHEbSYMBOL GBAKURUNENcOO DENNENbTAMAN SIGNaNLaNNBSPaNO BICYCLESbBREAK HERE",
    "bENTRYcSIGNbMOBILE PHONESbONE UNDER EIGHTEEN SYMBOLbPEDESTRIANSbPIRACYbSMOKING SYMBOL",
    "aNO-BREAK SPACEaNOMINAL DIGIT SHAPESaNOMISMA SIGNaNON-BREAKING HYPHEN",
    "aNON-POTABLE WATER SYMBOLaNONFORKINGaNORaNORDIC MARK SIGNaNORMAL SUBGROUP OFdOR EQUAL TO",
    "aNORTH EAST AND SOUTH WEST ARROWcARROWdAND SOUTH EAST ARROWdCROSSING NORTH WEST ARROW",
    "eSOUTH EAST ARROWdWITH HOOKcBLACK ARROWcDOUBLE ARROWcPOINTING BUDdLEAFdVINE LEAF",
    "cSANS-SERIF ARROWcTRIANGLE-HEADED ARROWeTO BARcWHITE ARROWbINDIC FRACTION ONE EIGHTHeHALF",
    "eQUARTEReSIXTEENTHdTHREE QUARTERSeSIXTEENTHScPLACEHOLDER MARKcQUANTITY MARKcQUARTER MARK",
    "cRUPEE MARKbWEST AND SOUTH EAST ARROWcARROWdAND NORTH EAST ARROWdCROSSING NORTH EAST ARROW",
    "dTO CORNEReLONG BARdWITH HOOKcBLACK ARROWcDOUBLE ARROWcPOINTING BUDdLEAFdVINE LEAF",
    "cSANS-SERIF ARROWcTRIANGLE-HEADED ARROWeTO BARcWHITE ARROWaNORTHEAST-POINTING AIRPLANEaNOSE",
    "aNOT A SUBSET OFcSUPERSET OFbALMOST EQUAL TObAN ELEMENT OFbASYMPTOTICALLY EQUAL TO",
    "bCHECK MARKbEQUAL TObEQUIVALENT TObGREATER-THANbIDENTICAL TObLESS-THANbNORMAL SUBGROUP OF",
    "eOR EQUAL TObPARALLEL TObSIGNbSQUARE IMAGE OF OR EQUAL TOcORIGINAL OF OR EQUAL TObTILDEbTRUE",
    "aNOTCHED LEFT SEMICIRCLE WITH THREE DOTSbLOWER RIGHT-SHADOWED WHITE RIGHTWARDS ARROW",
    "bRIGHT SEMICIRCLE WITH THREE DOTSbUPPER RIGHT-SHADOWED WHITE RIGHTWARDS ARROWaNOTEbPADbPAGE",
    "aNOTEBOOKbWITH DECORATIVE COVERaNULaNULLaNUMBER EIGHTEEN FULL STOPbELEVEN FULL STOP",
    "bFIFTEEN FULL STOPbFOURTEEN FULL STOPbNINETEEN FULL STOPbSEVENTEEN FULL STOPbSIGN",
    "bSIXTEEN FULL STOPbTEN FULL STOPbTHIRTEEN FULL STOPbTWELVE FULL STOPbTWENTY FULL STOP",
    "aNUMERO SIGNaNUSHU ITERATION MARKaNUT AND BOLTaNYIAKENG PUACHUE HMONG CIRCLED CAdDIGIT EIGHT",
    "eFIVEeFOUReNINEeONEeSEVENeSIXeTHREEeTWOeZEROdLETTER AeAAeCAeDAeDLAeEeEEeFAeGAeHAeHAHeIeKAeLA",
    "eMAeMLAeNAeNCAeNKAeNPAeNPLAeNQAeNRAeNTAeNTSAeNTXAeNYAeOeOOePAePLAeQAeRAeRRAeSAeTAeTSAeTXAeU",
    "eVAeWeXAeXYAeYAeZAdLOGOGRAM NYAJdSIGN FOR ANIMALfINVERTEBRATEfLOCATIONfPERSONfTHINGeXW XW",
    "dSYLLABLE LENGTHENERdTONE-BdTONE-DdTONE-GdTONE-JdTONE-MdTONE-SdTONE-V",
    "aOBJECT REPLACEMENT CHARACTERaOBLIQUE ANGLE OPENING DOWNdUPbHYPHENaOBSERVER EYE SYMBOL",
    "aOCR AMOUNT OF CHECKbBELT BUCKLEbBOW TIEbBRANCH BANK IDENTIFICATIONbCHAIR",
    "bCUSTOMER ACCOUNT NUMBERbDASHbDOUBLE BACKSLASHbFORKbHOOKbINVERTED FORKaOCTAGONAL SIGN",
    "aOCTOPUSaODENaOFFICE BUILDINGaOGHAM FEATHER MARKbLETTER AILMcBEITHcCEIRTcCOLLcDAIRcEABHADH",
    "cEADHADHcEAMHANCHOLLcFEARNcGORTcIFINcIODHADHcLUIScMUINcNGEADALcNIONcONNcORcPEITHcRUIScSAIL",
    "cSTRAIFcTINNEcUATHcUILLEANNcURbREVERSED FEATHER MARKbSPACE MARKaOGONEKaOHM SIGNaOIL DRUM",
    "aOK HAND SIGNaOL CHIKI AHADcDIGIT EIGHTdFIVEdFOURdNINEdONEdSEVENdSIXdTHREEdTWOdZERO",
    "cGAAHLAA TTUDDAAGcLETTER AAJdAAKdAAMdAAWdAGdALdANGdATdEDDdENdEPdERRdIHdINYdIRdISdLAdLAAdLE",
    "dLIdLOdLUdOBdOHdOTTdOVdUCdUDdUNNdUYcMU TTUDDAGcMU-GAAHLAA TTUDDAAGcPHAARKAA",
    "cPUNCTUATION DOUBLE MUCAADdMUCAADcRELAAaOLD CHINESE HOOK MARKcITERATION MARK",
    "bHUNGARIAN CAPITAL LETTER AeAAeAKeAMBeANDeCLOSE EeEeEBeECeECHeECSeEDeEEeEFeEGeEGYeEHeEJeEK",
    "eELeELYeEMeEMPeENeENCeENTeENT-SHAPED SIGNeENYeEPeEReESeESZeETeETYeEVeEZeEZSeIeII",
    "eNIKOLSBURG OEfUEeOeOEEeOOeRUDIMENTA OEfUEeSHORT EReUeUNKeUSeUUcNUMBER FIFTYdFIVEdONE",
    "eHUNDREDeTHOUSANDdTENcSMALL LETTER AeAAeAKeAMBeANDeCLOSE EeEeEBeECeECHeECSeEDeEEeEFeEGeEGY",
    "eEHeEJeEKeELeELYeEMeEMPeENeENCeENTeENT-SHAPED SIGNeENYeEPeEReESeESZeETeETYeEVeEZeEZSeIeII",
    "eNIKOLSBURG OEfUEeOeOEEeOOeRUDIMENTA OEfUEeSHORT EReUeUNKeUSeUUbITALIC LETTER AdBEdCHEdDEdE",
    "dEFdEKSdELdEMdENdERdERSdESdESHdESSdHEdIdIIdKAdKEdKHEdKUdNORTHERN TSEdOdPEdPHEdSHE",
    "dSOUTHERN TSEdTEdTHEdUdUUdVEdYEdZEcNUMERAL FIFTYdFIVEdONEdTENbKEYbNORTH ARABIAN LETTER AIN",
    "eALEFeBEHeDADeDALeES-1eES-2eES-3eFEHeGEEMeGHAINeHAHeHEHeKAFeKHAHeLAMeMEEMeNOONeQAFeREHeSAD",
    "eTAHeTEHeTHALeTHEHeWAWeYEHeZAHeZAINdNUMBER ONEeTENeTWENTYbPERMIC LETTER ANdBURdCHERYdDOI",
    "dDZHOIdDZITAdEdEFdGAIdHAdIdIAdIEdKOKEdLEIdMENOEdNENOEdOdOOdPEEIdREIdSHCHOOIdSHOOIdSIIdTAI",
    "dTSIUdUdVERdVOOIdYAdYATdYERdYERIdYERUdYRYdYUdZATAdZHOIbPERSIAN NUMBER HUNDREDdONEdTENdTWENTY",
    "dTWOcSIGN AdAURAMAZDAAdAURAMAZDAA-2dAURAMAZDAAHAdBAdBAGAdBUUMISHdCAdDAdDAHYAAUSHdDAHYAAUSH-2",
    "dDIdDUdFAdGAdGUdHAdIdJAdJIdKAdKUdLAdMAdMIdMUdNAdNUdPAdRAdRUdSAdSHAdSSAdTAdTHAdTUdUdVAdVIdXA",
    "dXSHAAYATHIYAdYAdZAcWORD DIVIDERbPERSONAL COMPUTERbSOGDIAN FRACTION ONE HALFcLETTER ALEPH",
    "dALTERNATE AYINdAYINdBETHdFINAL ALEPHeBETHeHEeNUNfWITH VERTICAL TAILeSADHE",
    "fWITH VERTICAL TAILeTAWfWITH VERTICAL TAILdGIMELdHEdHETHdKAPHdLAMEDHdMEMdNUNdPE",
    "dRESH-AYIN-DALETHdSADHEdSAMEKHdSHINdTAWdWAWdYODHdZAYINcLIGATURE AYIN-DALETHcNUMBER FIVEdFOUR",
    "dONEeHUNDREDdTENdTHIRTYdTHREEdTWENTYdTWObSOUTH ARABIAN LETTER ALEFeAYNeBETHeDALETHeDHADHE",
    "eDHALETHeFEeGHAYNeGIMELeHEeHETHeKAPHeKHETHeLAMEDHeMEMeNUNeQOPHeRESHeSADHEeSAMEKHeSATeSHIN",
    "eTAWeTETHeTHAWeTHETHeWAWeYODHeZAYNdNUMBER FIFTYeONEdNUMERIC INDICATORbTURKIC LETTER ORKHON A",
    "eABeADeAEBeAEDeAEGeAEKeAELeAENeAEReAESeAETeAEYeAGeALeANeAQeAReASeASHeATeAYeBASHeECeELTeEM",
    "eENCeENGeENTeENYeEPeESHeEZeIeICeIQeOeOEeOEKeOPeOQeOTdYENISEI AeABeADeAEeAEBeAEGeAEKeAENeAENG",
    "eAETeAEYeAGeALeANGeAQeAReASHeATeAYeEeECeENCeENTeENYeESHeEZeIeIQeOEeOEKeOQ",
    "bUYGHUR COMBINING DOT ABOVEeBELOWdTWO DOTS ABOVEfBELOWcLETTER ALEPHdBETHdFINAL HETH",
    "dGIMEL-HETHdKAPHdLAMEDHdLESHdMEMdNUNdPEdRESHdSADHEdSAMEKHdSHINdTAWdWAWdYODHdZAYIN",
    "cPUNCTUATION BARdFOUR DOTSdTWO BARSeDOTSaOLDER ADULTbMANbWOMANaOLIVEaOM SYMBOL",
    "aON WITH EXCLAMATION MARK WITH LEFT RIGHT ARROW ABOVEaONCOMING AUTOMOBILEbBUSbFIRE ENGINE",
    "bPOLICE CARbTAXIaONE BUTTON MOUSEbDOT LEADERcOVER TWO DOTS PUNCTUATIONaONE-PIECE SWIMSUIT",
    "aONIONaOPEN BOOKbBOXbCENTRE ASTERISKcBLACK STARcCROSScTEARDROP-SPOKED ASTERISKbFILE FOLDER",
    "bFOLDERbHANDS SIGNbLOCKbMAILBOX WITH LOWERED FLAGdRAISED FLAGbSUBSETbSUPERSET",
    "aOPEN-CIRCUIT-OUTPUT H-TYPE SYMBOLbL-TYPE SYMBOLaOPEN-OUTLINED RIGHTWARDS ARROW",
    "aOPERATING SYSTEM COMMANDaOPHIUCHUSaOPPOSITIONaOPTICAL DISCcICONaOPTION KEY",
    "aOR WITH DOT INSIDEaORANGE BOOKbHEARTaORANGUTANaORIGINAL OFaORIYA AI LENGTH MARK",
    "bAU LENGTH MARKbDIGIT EIGHTcFIVEcFOURcNINEcONEcSEVENcSIXcTHREEcTWOcZERObFRACTION ONE EIGHTH",
    "dHALFdQUARTERdSIXTEENTHcTHREE QUARTERSdSIXTEENTHSbISSHARbLETTER AcAAcAIcAUcBAcBHAcCAcCHAcDA",
    "cDDAcDDHAcDHAcEcGAcGHAcHAcIcIIcJAcJHAcKAcKHAcLAcLLAcMAcNAcNGAcNNAcNYAcOcPAcPHAcRAcRHAcRRAcSA",
    "cSHAcSSAcTAcTHAcTTAcTTHAcUcUUcVAcVOCALIC LdLLdRdRRcWAcYAcYYAbSIGN ANUSVARAcAVAGRAHA",
    "cCANDRABINDUcNUKTAcOVERLINEcVIRAMAcVISARGAbVOWEL SIGN AAdAIdAUdEdIdIIdOdUdUUdVOCALIC LeLLeR",
    "eRRaORNATE LEFT PARENTHESISbRIGHT PARENTHESISaORTHODOX CROSSaOSAGE CAPITAL LETTER AdAHdAI",
    "dAINdBRAdCHAdDHAdEdEHCHAdEHKAdEHPAdEHTAdEHTSAdEINdGHAdHAdHYAdIdKAdKHAdKYAdLAdMAdNAdOdOINdPA",
    "dSAdSHAdTAdTSAdTSHAdUdWAdZAdZHAbSMALL LETTER AdAHdAIdAINdBRAdCHAdDHAdEdEHCHAdEHKAdEHPAdEHTA",
    "dEHTSAdEINdGHAdHAdHYAdIdKAdKHAdKYAdLAdMAdNAdOdOINdPAdSAdSHAdTAdTSAdTSHAdUdWAdZAdZHAaOSC",
    "aOSMANYA DIGIT EIGHTcFIVEcFOURcNINEcONEcSEVENcSIXcTHREEcTWOcZERObLETTER AcAAcALEFcBAcCAYN",
    "cDEELcDHAcEcEEcFAcGAcHAcIcJAcKAAFcKHAcLAANcMIINcNUUNcOcOOcQAAFcRAcSAcSHIINcTAcUcWAWcXAcYA",
    "aOTTERaOTTOMAN SIYAQ ALTERNATE NUMBER EIGHTeFIVEeFOURfHUNDREDeNINEeSEVENeSIXfHUNDREDeTEN",
    "fTHOUSANDeTHREEeTWOfTHOUSANDcFRACTION ONE HALFeSIXTHcMARRATANcNUMBER EIGHTeHUNDREDeTHOUSAND",
    "dEIGHTYeTHOUSANDdFIFTYeTHOUSANDdFIVEeHUNDREDeTHOUSANDdFORTYeTHOUSANDdFOUReHUNDREDeTHOUSAND",
    "dNINEeHUNDREDeTHOUSANDdNINETYeTHOUSANDdONEeHUNDREDeTHOUSANDdSEVENeHUNDREDeTHOUSANDdSEVENTY",
    "eTHOUSANDdSIXeHUNDREDeTHOUSANDdSIXTYeTHOUSANDdTENeTHOUSANDdTHIRTYeTHOUSANDdTHREEeHUNDRED",
    "eTHOUSANDdTWENTYeTHOUSANDdTWOeHUNDREDeTHOUSANDaOUNCE SIGNaOUTBOX TRAYaOUTLINED BLACK STAR",
    "bGREEK CROSSbLATIN CROSSbWHITE STARaOVERHEATED FACEaOVERLAPaOVERLAPPING BLACK SQUARES",
    "bWHITE AND BLACK SQUAREScSQUARESaOVERLINEaOWLaOXaOYSTERaPACKAGEaPADaPADDING CHARACTERaPAGE",
    "bFACING UPbWITH CIRCLED TEXTcCURLaPAGERaPAGESaPAGODAaPAHAWH HMONG CLAN SIGN FAJeHAMeHAWJ",
    "eKHABeKOOeKWMeLAUJeLISeMUASePHABeTHOJeTSABeTSHEEJeTSWBeVAJeVWJeXYOOJeYAJeYEEGcCONSONANT AU",
    "dCAUdCHAUdHAUdHLAUdHNAUdLAUdMAUdNAUdNCHAUdNKAUdNLAUdNTHAUdNTSAUdPLHAUdQHAUdRAUdVAUdXAUdYAU",
    "cDIGIT EIGHTdFIVEdFOURdNINEdONEdSEVENdSIXdTHREEdTWOdZEROcMARK CIM HOMeKESeKHAVeSOeSUAMeTAUM",
    "eTUBcNUMBER HUNDRED MILLIONSdHUNDREDSdMILLIONSdTEN BILLIONSeTHOUSANDSdTENSdTRILLIONScSIGN AV",
    "dCIM CHEEMeCUAM TSHOOJeHAIS LUS NTOG NTOGeNRES TOSePUB DAWBeTSOV ROGeTXWVfCHWVdHLIdHNUB",
    "dIB YAMdLOSdMEEJ SUABeTSEEBdMUSdNQIGdNTUJdTAUdTHIRD-STAGE HLIdTXHEEJ CEEVdVOS FEEMeLUBeNRUA",
    "eSEEVeTHIABeTHOMeTSHAB CEEBdXAUSdXIABdXYEEM FAIBeNTXIVeRHOeTOVdXYOOdZWJ THAJcVOWEL KAABdKAAV",
    "dKABdKAIBdKAIVdKAUBdKAUVdKAVdKAWBdKAWVdKEBdKEEBdKEEVdKEVdKIABdKIAVdKIBdKIVdKOBdKOOBdKOOVdKOV",
    "dKUABdKUAVdKUBdKUVdKWBdKWVaPALLASaPALM BRANCHbDOWN HANDbTREEbUP HANDaPALMS UP TOGETHER",
    "aPALMYRENE LEFT-POINTING FLEURONbLETTER ALEPHcAYINcBETHcDALETHcFINAL NUNcGIMELcHEcHETHcKAPH",
    "cLAMEDHcMEMcNUNcPEcQOPHcRESHcSADHEcSAMEKHcSHINcTAWcTETHcWAWcYODHcZAYINbNUMBER FIVEcFOURcONE",
    "cTENcTHREEcTWENTYcTWObRIGHT-POINTING FLEURONaPANCAKESaPANDA FACEaPAPERCLIPaPARACHUTE",
    "aPARAGRAPH SEPARATORaPARAGRAPHOSaPARAGRAPHUS MARKaPARALLEL TObWITH HORIZONTAL STROKE",
    "cTILDE OPERATORaPARENTHESIZED DIGIT EIGHTcFIVEcFOURcNINEcONEcSEVENcSIXcTHREEcTWO",
    "bHANGUL CHIEUCHdAcCIEUCdAdUcHIEUHdAcIEUNGdAcKHIEUKHdAcKIYEOKdAcMIEUMdAcNIEUNdAcPHIEUPHdA",
    "cPIEUPdAcRIEULdAcSIOSdAcTHIEUTHdAcTIKEUTdAbIDEOGRAPH ALLIANCEcCALLcCONGRATULATIONcEARTH",
    "cEIGHTcENTERPRISEcFESTIVALcFINANCIALcFIREcFIVEcFOURcHAVEcLABORcMETALcMOONcNAMEcNINEcONE",
    "cREACHcREPRESENTcRESOURCEcRESTcSELFcSEVENcSIXcSOCIETYcSPECIALcSTOCKcSTUDYcSUNcSUPERVISEcTEN",
    "cTHREEcTWOcWATERcWOODbKOREAN CHARACTER O HUdOJEONbLATIN CAPITAL LETTER AeBeCeDeEeFeGeHeIeJeK",
    "eLeMeNeOePeQeReSeTeUeVeWeXeYeZcSMALL LETTER AeBeCeDeEeFeGeHeIeJeKeLeMeNeOePeQeReSeTeUeVeWeX",
    "eYeZbNUMBER EIGHTEENcELEVENcFIFTEENcFOURTEENcNINETEENcSEVENTEENcSIXTEENcTENcTHIRTEENcTWELVE",
    "cTWENTYaPARROTaPART ALTERNATION MARKaPARTIAL DIFFERENTIALbLINE BACKWARDcDOWNcFORWARDcUP",
    "aPARTIALLY-RECYCLED PAPER SYMBOLaPARTNERSHIP SIGNaPARTY POPPERaPASSED SYMBOLaPASSENGER SHIP",
    "aPASSIVE-PULL-DOWN-OUTPUT SYMBOLaPASSIVE-PULL-UP-OUTPUT SYMBOLaPASSPORT CONTROL",
    "aPAU CIN HAU GLOTTAL STOPfFINALfVARIANTdLETTER AeBAeCAeCHAeDAeEeFAeFINAL KfLfMfNfNGfPfTfWfY",
    "eGAeHAeIeIAeKAeKHAeLAeMAeNAeNGAeOePAePHAeRAeSAeTAeTHAeUeUAeVAeZAdLOW-FALLING TONEfFINALfLONG",
    "gFINALdMID-LEVEL TONEfFINALfLONG FINALdRISING TONEfFINALfLONGgFINALdSANDHI GLOTTAL STOP",
    "gFINALeTONEfFINALfLONGgFINALaPAW PRINTSaPDFaPDIaPEACE SYMBOLaPEACHaPEACOCKaPEANUTSaPEAR",
    "aPEDESTRIANaPEN OVER STAMPED ENVELOPEaPENCILaPENGUINaPENSIVE FACEaPENTAGRAMaPEOPLE HUGGING",
    "aPER MILLE SIGNbSIGNbTEN THOUSAND SIGNaPERCENT SIGNaPERFORMING ARTSaPERMANENT PAPER SIGN",
    "aPERPENDICULARbWITH SaPERSEVERING FACEaPERSON BOWING DEEPLYbCLIMBINGbDOING CARTWHEEL",
    "bFROWNINGbIN LOTUS POSITIONcSTEAMY ROOMbRAISING BOTH HANDS IN CELEBRATIONbWITH BALL",
    "cBLOND HAIRcCROWNcFOLDED HANDScHEADSCARFcPOUTING FACEaPERSONAL COMPUTERaPERSPECTIVE",
    "aPESETA SIGNaPESO SIGNaPETRI DISHaPHAGS-PA DOUBLE HEAD MARKbLETTER AcALTERNATE YA",
    "cASPIRATED FAcBAcCAcCANDRABINDUcCHAcDAcDDAcDZAcEcEEcFAcGAcGGAcHAcIcJAcKAcKHAcLAcMAcNAcNGA",
    "cNNAcNYAcOcPAcPHAcQAcRAcSAcSHAcSMALL AcTAcTHAcTSAcTSHAcTTAcTTHAcUcVOICED HAcVOICELESS SHAcWA",
    "cXAcYAcZAcZHAbMARK DOUBLE SHADcSHADbSINGLE HEAD MARKbSUBJOINED LETTER RAdWAdYA",
    "bSUPERFIXED LETTER RAaPHAISTOS DISC SIGN ARROWdBEEdBEEHIVEdBOOMERANGdBOWdBULLS LEGdCAPTIVE",
    "dCARPENTRY PLANEdCATdCHILDdCLUBdCOLUMNdCOMBdCOMBINING OBLIQUE STROKEdDOLIUMdDOVEdEAGLEdFLUTE",
    "dGAUNTLETdGRATERdHELMETdHIDEdHORNdLIDdLILYdMANACLESdMATTOCKdOX BACKdPAPYRUSdPEDESTRIAN",
    "dPLANE TREEdPLUMED HEADdRAMdROSETTEdSAWdSHIELDdSHIPdSLINGdSMALL AXEdSTRAINERdTATTOOED HEAD",
    "dTIARAdTUNNYdVINEdWAVY BANDdWOMANaPHILIPPINE DOUBLE PUNCTUATIONbSINGLE PUNCTUATION",
    "aPHOENICIAN LETTER AINcALFcBETcDELTcGAMLcHEcHETcKAFcLAMDcMEMcNUNcPEcQOFcROSHcSADEcSEMKcSHIN",
    "cTAUcTETcWAUcYODcZAIbNUMBER ONEdHUNDREDcTENcTHREEcTWENTYcTWObWORD SEPARATORaPHOLUSaPICK",
    "aPICKUP TRUCKaPIEaPIGbFACEbNOSEaPILCROW SIGNaPILE OF POOaPILLaPINATAaPINCHED FINGERS",
    "aPINCHING HANDaPINE DECORATIONaPINEAPPLEaPINWHEEL STARaPISCESaPISTOLaPITCHFORKbWITH TEE TOP",
    "aPLACARDaPLACE OF INTEREST SIGNcWORSHIPaPLANCK CONSTANTcOVER TWO PIaPLAYGROUND SLIDE",
    "aPLAYING CARD ACE OF CLUBSeDIAMONDSeHEARTSeSPADEScBACKcBLACK JOKERcEIGHT OF CLUBSeDIAMONDS",
    "eHEARTSeSPADEScFIVE OF CLUBSeDIAMONDSeHEARTSeSPADEScFOOLcFOUR OF CLUBSeDIAMONDSeHEARTS",
    "eSPADEScJACK OF CLUBSeDIAMONDSeHEARTSeSPADEScKING OF CLUBSeDIAMONDSeHEARTSeSPADES",
    "cKNIGHT OF CLUBSeDIAMONDSeHEARTSeSPADEScNINE OF CLUBSeDIAMONDSeHEARTSeSPADEScQUEEN OF CLUBS",
    "eDIAMONDSeHEARTSeSPADEScRED JOKERcSEVEN OF CLUBSeDIAMONDSeHEARTSeSPADEScSIX OF CLUBS",
    "eDIAMONDSeHEARTSeSPADEScTEN OF CLUBSeDIAMONDSeHEARTSeSPADEScTHREE OF CLUBSeDIAMONDSeHEARTS",
    "eSPADEScTRUMP-1cTRUMP-10cTRUMP-11cTRUMP-12cTRUMP-13cTRUMP-14cTRUMP-15cTRUMP-16cTRUMP-17",
    "cTRUMP-18cTRUMP-19cTRUMP-2cTRUMP-20cTRUMP-21cTRUMP-3cTRUMP-4cTRUMP-5cTRUMP-6cTRUMP-7cTRUMP-8",
    "cTRUMP-9cTWO OF CLUBSeDIAMONDSeHEARTSeSPADEScWHITE JOKERaPLDaPLUaPLUNGERaPLUS SIGN",
    "cABOVE EQUALS SIGNcIN LEFT HALF CIRCLEdRIGHT HALF CIRCLEdTRIANGLEcWITH BLACK TRIANGLE",
    "dCIRCUMFLEX ACCENT ABOVEdDOT BELOWdSMALL CIRCLE ABOVEdSUBSCRIPT TWOdTILDE ABOVEeBELOW",
    "aPLUS-MINUS SIGNaPLUTObFORM FIVEcFOURcTHREEcTWOaPMaPOCKET CALCULATORaPOLICE CAR",
    "bCARS REVOLVING LIGHTbOFFICERaPOODLEaPOP DIRECTIONAL FORMATTINGcISOLATEaPOPCORN",
    "aPORTABLE STEREOaPOSEIDONaPOSITION INDICATORaPOSTAL HORNbMARKcFACEaPOSTBOXaPOT OF FOOD",
    "aPOTABLE WATER SYMBOLaPOTATOaPOTTED PLANTaPOUCHaPOULTRY LEGaPOUND SIGNaPOURING LIQUID",
    "aPOUTING CAT FACEbFACEaPOWER ON SYMBOLbON-OFF SYMBOLbSLEEP SYMBOLbSYMBOLaPRAYER BEADS",
    "aPRECEDESbABOVE ALMOST EQUAL TOcEQUALS SIGNcNOT ALMOST EQUAL TOdEQUAL TO",
    "cSINGLE-LINE EQUALS SIGNdNOT EQUAL TObBUT NOT EQUIVALENT TObOR EQUAL TOcEQUIVALENT TO",
    "bUNDER RELATIONaPREGNANT MANbPERSONbWOMANaPRESCRIPTION TAKE",
    "aPRESENTATION FORM FOR VERTICAL COLONeCOMMAeEM DASHeEN DASHeEXCLAMATION MARK",
    "eHORIZONTAL ELLIPSISeIDEOGRAPHIC COMMAfFULL STOPeLEFT ANGLE BRACKETfBLACK LENTICULAR BRACKET",
    "fCORNER BRACKETfCURLY BRACKETfDOUBLE ANGLE BRACKETfPARENTHESISfSQUARE BRACKET",
    "fTORTOISE SHELL BRACKETfWHITE CORNER BRACKETgLENTICULAR BRACKETeLOW LINEeQUESTION MARK",
    "eRIGHT ANGLE BRACKETfBLACK LENTICULAR BRACKETfCORNER BRACKETfCURLY BRACKET",
    "fDOUBLE ANGLE BRACKETfPARENTHESISfSQUARE BRACKETfTORTOISE SHELL BRACKETfWHITE CORNER BRACKET",
    "gLENTICULAR BRACKEThBRAKCETeSEMICOLONeTWO DOT LEADEReWAVY LOW LINEaPRETZELaPREVIOUS PAGE",
    "aPRIMEaPRINCEaPRINCESSaPRINT SCREEN SYMBOLaPRINTERbICONaPRIVACY MESSAGEaPRIVATE USE ONEcTWO",
    "bUSE-1bUSE-2aPROBING CANEaPROHIBITED SIGNaPROJECTIVEaPROPERTY LINEaPROPORTION",
    "aPROPORTIONAL TOaPROSERPINAaPSALTER PAHLAVI FOUR DOTS WITH CROSSfDOTcLETTER ALEPHdBETH",
    "dDALETHdGIMELdHEdHETHdKAPHdLAMEDHdMEM-QOPHdNUNdPEdSADHEdSAMEKHdSHINdTAWdWAW-AYIN-RESHdYODH",
    "dZAYINcNUMBER FOURdONEeHUNDREDdTENdTHREEdTWENTYdTWOcSECTION MARKcTURNED SECTION MARKaPU1aPU2",
    "aPUBLIC ADDRESS LOUDSPEAKERaPUNCTUATION SPACEaPUNCTUS ELEVATUS MARKaPURPLE HEARTaPURSE",
    "aPUSHPINaPUT LITTER IN ITS PLACE SYMBOLaQUADRANT LOWER LEFTcRIGHTbUPPER LEFT",
    "dAND LOWER LEFT AND LOWER RIGHTfRIGHTeUPPER RIGHT AND LOWER LEFTiRIGHTcRIGHTdAND LOWER LEFT",
    "gAND LOWER RIGHTaQUADRUPLE INTEGRAL OPERATORbPRIMEaQUARTER NOTEaQUATERNION INTEGRAL OPERATOR",
    "aQUESTION EXCLAMATION MARKbMARKaQUESTIONED EQUAL TOaQUINCUNXaQUOTATION MARKaRABBITbFACE",
    "aRACCOONaRACING CARbMOTORCYCLEaRADICAL SYMBOL BOTTOMaRADIObBUTTONaRADIOACTIVE SIGN",
    "aRAILWAY CARbTRACKaRAINaRAINBOWaRAISED BACK OF HANDbCOMMAbDOTbDOTTED INTERPOLATION MARKER",
    "bFISTbHANDcWITH FINGERS SPLAYEDdPART BETWEEN MIDDLE AND RING FINGERSbINTERPOLATION MARKER",
    "bMC SIGNbMD SIGNbMR SIGNbSQUAREaRAMaRATaRATIOaRAZORaRECEIPTaRECORD SEPARATOR",
    "aRECREATIONAL VEHICLEaRECYCLED PAPER SYMBOLaRECYCLING SYMBOL FOR GENERIC MATERIALS",
    "dTYPE-1 PLASTICSdTYPE-2 PLASTICSdTYPE-3 PLASTICSdTYPE-4 PLASTICSdTYPE-5 PLASTICS",
    "dTYPE-6 PLASTICSdTYPE-7 PLASTICSaRED APPLEbGIFT ENVELOPEaREFERENCE MARK",
    "aREGIONAL INDICATOR SYMBOL LETTER AeBeCeDeEeFeGeHeIeJeKeLeMeNeOePeQeReSeTeUeVeWeXeYeZ",
    "aREGISTERED SIGNaREJANG CONSONANT SIGN HdNdNGdRbLETTER AcBAcCAcDAcGAcHAcJAcKAcLAcMAcMBAcNA",
    "cNDAcNGAcNGGAcNYAcNYJAcPAcRAcSAcTAcWAcYAbSECTION MARKbVIRAMAbVOWEL SIGN AIdAUdEdEAdEUdIdOdU",
    "aRELIEVED FACEaREMINDER RIBBONaREPLACEMENT CHARACTERaRESPONSEaRESTRICTED LEFT ENTRY-1",
    "cENTRY-2aRESTROOMaRETURN LEFTbRIGHTbSYMBOLaREVERSE CHECKER BOARDbINDEX",
    "bLIGHT FOUR POINTED PINWHEEL STARbLINE FEEDbSOLIDUScOPERATORcPRECEDING SUBSET",
    "cWITH HORIZONTAL STROKEbTILDE OPERATOR ABOVE LEFTWARDS ARROWeRIGHTWARDS ARROWaREVERSED ANGLE",
    "cWITH UNDERBARbCOMMAbDOUBLE PRIMEdQUOTATION MARKcSTROKE NOT SIGNbEMPTY SET",
    "bFORKED PARAGRAPHOSbHAND WITH MIDDLE FINGER EXTENDEDbNOT SIGNbPILCROW SIGNbPRIME",
    "bQUESTION MARKbRAISED HAND WITH FINGERS SPLAYEDbRIGHT ANGLEbROTATED FLORAL HEART BULLET",
    "bSANS-SERIF CAPITAL LbSEMICOLONbTHUMBS DOWN SIGNcUP SIGNbTILDEcEQUALSbTRIPLE PRIME",
    "bVICTORY HANDaREVOLVING HEARTSaRHINOCEROSaRIaRIAL SIGNaRIBBONbARROW DOWN LEFTdRIGHT",
    "cLEFT DOWNdUPcRIGHT DOWNdUPcUP LEFTdRIGHTaRICE BALLbCRACKERaRIFLE",
    "aRIGHT AND LOWER ONE EIGHTH BLOCKcUPPER ONE EIGHTH BLOCKbANGER BUBBLEbANGLEcBRACKETdWITH DOT",
    "cDOTTED SUBSTITUTION MARKERcSUBSTITUTION MARKERcVARIANT WITH SQUAREcWITH ARC",
    "dDOWNWARDS ZIGZAG ARROWbARC GREATER-THAN BRACKETbARROW WITH CIRCLED PLUSdSMALL CIRCLE",
    "bBLACK LENTICULAR BRACKETcTORTOISE SHELL BRACKETbCEILINGbCORNER BRACKETbCURLY BRACKET",
    "dLOWER HOOKdMIDDLE PIECEdUPPER HOOKbDOTTED SUBSTITUTION BRACKETbDOUBLE ANGLE BRACKET",
    "cARROW WITH ROUNDED HEADcPARENTHESIScQUOTATION MARKcWIGGLY FENCEbFISH TAIL",
    "bFIVE EIGHTHS BLOCKbFLOORbHALF BLACK CIRCLEdSTARcBLOCKcFOLDERcMEDIUM SHADEcRUNNING MAN",
    "bHAND TELEPHONE RECEIVERbLOW PARAPHRASE BRACKETbNORMAL FACTOR SEMIDIRECT PRODUCT",
    "bONE EIGHTH BLOCKcQUARTER BLOCKbOPEN SQUARED DOTbOUTER JOINbPARENTHESIScEXTENSIONcLOWER HOOK",
    "cUPPER HOOKbRAISED OMISSION BRACKETbS-SHAPED BAG DELIMITERbSEMIDIRECT PRODUCT",
    "bSEVEN EIGHTHS BLOCKbSIDEWAYS U BRACKETbSINGLE QUOTATION MARKbSPEAKERcWITH ONE SOUND WAVE",
    "dTHREE SOUND WAVESbSPEECH BUBBLEbSQUARE BRACKETdEXTENSIONdLOWER CORNERdUPPER CORNER",
    "dWITH DOUBLE STROKEeQUILLeSTROKEeTICK IN BOTTOM CORNERgTOP CORNEReUNDERBAR",
    "bSUBSTITUTION BRACKETbTACKbTHIRD WHITE RIGHT POINTING INDEXbTHOUGHT BUBBLE",
    "bTHREE EIGHTHS BLOCKcQUARTERS BLOCKbTORTOISE SHELL BRACKETbTRANSPOSITION BRACKETbTRIANGLE",
    "cABOVE LEFT TRIANGLEbTRIANGULAR ONE QUARTER BLOCKbVERTICAL BAR WITH QUILLcBOX LINE",
    "bWHITE CORNER BRACKETcCURLY BRACKETcLENTICULAR BRACKETcPARENTHESIScSQUARE BRACKET",
    "cTORTOISE SHELL BRACKETbWIGGLY FENCEaRIGHT-FACING ARMENIAN ETERNITY SIGNbFISTbSVASTI SIGN",
    "dWITH DOTSaRIGHT-HANDED INTERLACED PENTAGRAMaRIGHT-POINTING ANGLE BRACKET",
    "bCURVED ANGLE BRACKETbDOUBLE ANGLE QUOTATION MARKbMAGNIFYING GLASS",
    "aRIGHT-SHADED WHITE RIGHTWARDS ARROWaRIGHT-SIDE ARC CLOCKWISE ARROWaRIGHT-TO-LEFT EMBEDDING",
    "bISOLATEbMARKbOVERRIDEaRIGHTHAND INTERIOR PRODUCTaRIGHTWARDS ARROWcABOVE ALMOST EQUAL TO",
    "dREVERSE ALMOST EQUAL TOeTILDE OPERATORdSHORT LEFTWARDS ARROWdTILDE OPERATOR",
    "cAND UPPER AND LOWER ONE EIGHTH BLOCKcFROM BAReTO BLACK DIAMONDcOVER LEFTWARDS ARROW",
    "cTHROUGH GREATER-THANdSUPERSETdXcTO BARdBLACK DIAMONDcWITH CORNER DOWNWARDSdDOTTED STEM",
    "dDOUBLE VERTICAL STROKEdEQUILATERAL ARROWHEADdHOOKdLARGE TRIANGLE ARROWHEADdLOOP",
    "dMEDIUM TRIANGLE ARROWHEADdNOTCHED TAILdPLUS BELOWdSMALL EQUILATERAL ARROWHEAD",
    "eTRIANGLE ARROWHEADdSTROKEdTAILeWITH DOUBLE VERTICAL STROKEfVERTICAL STROKEdTIP DOWNWARDS",
    "eUPWARDSdVERTICAL STROKEbARROW-TAILbBACK-TILTED SHADOWED WHITE ARROWbBLACK ARROW",
    "cCIRCLED WHITE ARROWbBOTTOM SHADED WHITE ARROWbCOMPRESSED ARROWbDASHED ARROWbDOUBLE ARROW",
    "dFROM BARdWITH STROKEeVERTICAL STROKEcARROW-TAILcDASH ARROWbFINGER-POST ARROW",
    "bFRONT-TILTED SHADOWED WHITE ARROWbHANDbHARPOON OVER LEFTWARDS HARPOON",
    "cWITH BARB DOWN ABOVE LEFTWARDS HARPOON WITH BARB DOWNfBELOW LONG DASHfFROM BARfTO BAR",
    "eDOWNWARDSeUP ABOVE LEFTWARDS HARPOON WITH BARB UPgLONG DASH",
    "gRIGHTWARDS HARPOON WITH BARB DOWNfFROM BARfTO BAReUPWARDSbHEAVY ARROWcCOMPRESSED ARROW",
    "bLEFT-SHADED WHITE ARROWbOPEN-HEADED ARROWbPAIRED ARROWSbQUADRUPLE ARROW",
    "bRIGHT-SHADED WHITE ARROWbROCKETbSANS-SERIF ARROWbSQUARED ARROWbSQUIGGLE ARROW",
    "bTOP SHADED WHITE ARROWbTRIANGLE ARROWHEADbTRIANGLE-HEADED ARROW",
    "dOVER LEFTWARDS TRIANGLE-HEADED ARROWdTO BARdWITH BOLD SHAFTeDOUBLE HORIZONTAL STROKE",
    "fVERTICAL STROKEeHEAVY SHAFTeLONG TIP DOWNWARDSgUPWARDSeMEDIUM SHAFTeNARROW SHAFT",
    "eVERY HEAVY SHAFTcDASHED ARROWcPAIRED ARROWSbTRIPLE ARROWcDASH ARROWbTWO HEADED ARROW",
    "bTWO-HEADED ARROW FROM BARdWITH DOUBLE VERTICAL STROKEeTAILfWITH DOUBLE VERTICAL STROKE",
    "gVERTICAL STROKEeTRIANGLE ARROWHEADSeVERTICAL STROKEcTRIPLE DASH ARROWbWAVE ARROW",
    "bWHITE ARROWdFROM WALLdWITHIN TRIANGLE ARROWHEADaRINGbABOVEbBUOYbEQUAL TObIN EQUAL TO",
    "bOPERATORbPOINTaRINGED PLANETaRINGING BELLaRISING DIAGONAL CROSSING FALLING DIAGONAL",
    "dSOUTH EAST ARROWaRLEaRLIaRLMaRLOaROASTED SWEET POTATOaROBOT FACEaROCKaROCKETaROLL OF PAPER",
    "aROLLED-UP NEWSPAPERaROLLER COASTERbSKATEaROLLING ON THE FLOOR LAUGHINGaROMAN AS SIGN",
    "bCENTURIAL SIGNbDENARIUS SIGNbDIMIDIA SEXTULA SIGNbDUPONDIUS SIGNbNUMERAL EIGHTcELEVENcFIFTY",
    "dEARLY FORMdTHOUSANDcFIVEdHUNDREDdTHOUSANDcFOURcNINEcONEdHUNDREDeTHOUSANDdTHOUSANDeC D",
    "cREVERSED ONE HUNDREDcSEVENcSIXdLATE FORMcTENdTHOUSANDcTHREEcTWELVEcTWObQUINARIUS SIGN",
    "bSEMUNCIA SIGNbSESTERTIUS SIGNbSEXTANS SIGNbSEXTULA SIGNbSILIQUA SIGNbUNCIA SIGNaROOSTER",
    "aROSEaROSETTEaROTATED CAPITAL QbFLORAL HEART BULLETbHEAVY BLACK HEART BULLET",
    "bLIGHT FOUR POINTED BLACK CUSPbWHITE FOUR POINTED CUSPaROUND PUSHPINbTARGET",
    "aROUNDED SYMBOL FOR CAIdFUdLUdSHOUdSHUANGXIdXIaROWBOATaRSaRUBLE SIGNaRUGBY FOOTBALL",
    "aRULE-DELAYEDaRUMI DIGIT EIGHTcFIVEcFOURcNINEcONEcSEVENcSIXcTHREEcTWObFRACTION ONE HALF",
    "dQUARTERdTHIRDcTWO THIRDSbNUMBER EIGHT HUNDREDcEIGHTYcFIFTYcFIVE HUNDREDcFORTYcFOUR HUNDRED",
    "cNINE HUNDREDcNINETYcONE HUNDREDcSEVEN HUNDREDcSEVENTYcSIX HUNDREDcSIXTYcTENcTHIRTY",
    "cTHREE HUNDREDcTWENTYcTWO HUNDREDaRUNIC ARLAUG SYMBOLbBELGTHOR SYMBOLbCROSS PUNCTUATION",
    "bLETTER AC AcAESCcALGIZ EOLHXcANSUZ AcBERKANAN BEORC BJARKAN BcCcCALCcCEALCcCENcCWEORTHcD",
    "cDAGAZ DAEG DcDOTTED-LcDOTTED-NcDOTTED-PcEcEARcEHWAZ EH EcENGcETHcFEHU FEOH FE F",
    "cFRANKS CASKET ACeAESCeEHeISeOScGcGARcGEBO GYFU GcGERcHAEGL HcHAGLAZ HcICELANDIC-YRcING",
    "cINGWAZcIORcISAZ IS ISS IcIWAZ EOHcJERAN JcKcKAUN KcKAUNAcLAUKAZ LAGU LOGR L",
    "cLONG-BRANCH-AR AEcLONG-BRANCH-HAGALL HcLONG-BRANCH-MADR McLONG-BRANCH-OSS OcLONG-BRANCH-YR",
    "cMANNAZ MAN McNAUDIZ NYD NAUD NcOcOEcONcOOcOPEN-PcOS OcOTHALAN ETHEL OcPERTHO PEORTH PcQ",
    "cRAIDO RAD REID RcSHcSHORT-TWIG-AR AcSHORT-TWIG-BJARKAN BcSHORT-TWIG-HAGALL H",
    "cSHORT-TWIG-MADR McSHORT-TWIG-NAUD NcSHORT-TWIG-OSS OcSHORT-TWIG-SOL ScSHORT-TWIG-TYR T",
    "cSHORT-TWIG-YRcSIGEL LONG-BRANCH-SOL ScSOWILO ScSTANcTHURISAZ THURS THORNcTIWAZ TIR TYR T",
    "cURUZ UR UcVcWcWUNJO WYNN WcXcYcYRcZbMULTIPLE PUNCTUATIONbSINGLE PUNCTUATIONbTVIMADUR SYMBOL",
    "aRUNNERaRUNNING SHIRT WITH SASHaRUPEE SIGNaRUSSIAN ASTROLOGICAL SYMBOL BINOVILEdNOVILE",
    "dQUINTILEdSENTAGONdTREDECILEdVIGINTILE"]

end Jet.Text.CharacterName
