/-!
# Names of characters: A to B

The names that begin with the letters A to B, in order.  A small letter stands in front of
each name and says how many words the name shares with the one before, `a` for none; only the other
words are given.
-/

namespace Jet.Text.CharacterName

/-- The names that begin with the letters A to B. -/
def namesAtoB : List String :=
  ["aABACUSaAC CURRENTaACCORDIONaACCOUNT OFaACKaACKNOWLEDGEaACTIVATE ARABIC FORM SHAPING",
    "bSYMMETRIC SWAPPINGaACUTE ACCENTbANGLEaADDRESSED TO THE SUBJECTaADHESIVE BANDAGEaADI SHAKTI",
    "aADLAM ALIF LENGTHENERbCAPITAL LETTER ALIFdBAdBHEdCHIdDAALIdDHAdEdFAdGAdGBEdHAdIdJIIMdKAF",
    "dKHAdKPOdLAAMdMIIMdNHAdNUNdNYAdOdPEdQAAFdRAdSHAdSINNYIIYHEdTUdUdVAdWAWdYAdYHEdZAL",
    "bCONSONANT MODIFIERbDIGIT EIGHTcFIVEcFOURcNINEcONEcSEVENcSIXcTHREEcTWOcZERO",
    "bGEMINATE CONSONANT MODIFIERbGEMINATION MARKbHAMZAbINITIAL EXCLAMATION MARKcQUESTION MARK",
    "bNASALIZATION MARKbNUKTAbSMALL LETTER ALIFdBAdBHEdCHIdDAALIdDHAdEdFAdGAdGBEdHAdIdJIIMdKAF",
    "dKHAdKPOdLAAMdMIIMdNHAdNUNdNYAdOdPEdQAAFdRAdSHAdSINNYIIYHEdTUdUdVAdWAWdYAdYHEdZAL",
    "bVOWEL LENGTHENERaADMETOSaADMISSION TICKETSaADULTaAEGEAN CHECK MARK",
    "bDRY MEASURE FIRST SUBUNITbLIQUID MEASURE FIRST SUBUNITbMEASURE SECOND SUBUNITcTHIRD SUBUNIT",
    "bNUMBER EIGHTdHUNDREDdTHOUSANDcEIGHTYdTHOUSANDcFIFTYdTHOUSANDcFIVEdHUNDREDdTHOUSANDcFORTY",
    "dTHOUSANDcFOURdHUNDREDdTHOUSANDcNINEdHUNDREDdTHOUSANDcNINETYdTHOUSANDcONEdHUNDREDdTHOUSAND",
    "cSEVENdHUNDREDdTHOUSANDcSEVENTYdTHOUSANDcSIXdHUNDREDdTHOUSANDcSIXTYdTHOUSANDcTENdTHOUSAND",
    "cTHIRTYdTHOUSANDcTHREEdHUNDREDdTHOUSANDcTWENTYdTHOUSANDcTWOdHUNDREDdTHOUSAND",
    "bWEIGHT BASE UNITcFIRST SUBUNITcFOURTH SUBUNITcSECOND SUBUNITcTHIRD SUBUNIT",
    "bWORD SEPARATOR DOTdLINEaAERIAL TRAMWAYaAFGHANI SIGNaAHOM CONSONANT SIGN MEDIAL LA",
    "eLIGATING RAeRAbDIGIT EIGHTcFIVEcFOURcNINEcONEcSEVENcSIXcTHREEcTWOcZERObLETTER A",
    "cALTERNATE BAdGAdTAcBAcBHAcCAcCHAcDAcDDAcDDHAcDHAcGAcGHAcHAcJAcJHAcKAcKHAcLAcLLAcMAcNAcNGA",
    "cNNAcNYAcPAcPHAcRAcSAcTAcTHAcTTAcTTHAbNUMBER TENcTWENTYbSIGN KILLERcRULAIcSECTION",
    "cSMALL SECTIONbSYMBOL VIbVOWEL SIGN AdAAdAIdAMdAWdEdIdIIdOdUdUUaAIRPLANEbARRIVINGbDEPARTURE",
    "aAKTIESELSKABaALARM CLOCKaALCHEMICAL SYMBOL FOR AIRdALEMBICdALKALIdALKALI-2dALUMdAMALGAM",
    "dANTIMONY OREdAQUA REGIAeREGIA-2eVITAEeVITAE-2dAQUAFORTISdARSENICdASHESdAURIPIGMENT",
    "dBATH OF MARYfVAPOURSdBISMUTH OREdBLACK SULFURdBORAXdBORAX-2dBORAX-3dBRICKdCADUCEUSdCALX",
    "dCAPUT MORTUUMdCINNABARdCOPPER ANTIMONIATEeOREdCROCUS OF COPPERfCOPPER-2fIRONdCRUCIBLE",
    "dCRUCIBLE-2dCRUCIBLE-3dCRUCIBLE-4dCRUCIBLE-5dDAY-NIGHTdDISSOLVEdDISSOLVE-2dDISTILLdEARTH",
    "dFIREdGOLDdGUMdHALF DRAMeOUNCEdHORSE DUNGdHOURdIRON OREeORE-2dIRON-COPPER OREdLEAD ORE",
    "dLODESTONEdMARCASITEdMERCURY SUBLIMATEeSUBLIMATE-2eSUBLIMATE-3dMONTHdNIGHTdNITREdOIL",
    "dPHILOSOPHERS SULFURdPOT ASHESdPOWDERdPOWDERED BRICKdPRECIPITATEdPURIFYdPUTREFACTION",
    "dQUICK LIMEdQUINTESSENCEdREALGARdREALGAR-2dREGULUSeOF ANTIMONYfANTIMONY-2fIRONdREGULUS-2",
    "dREGULUS-3dREGULUS-4dRETORTdROCK SALTeSALT-2dSAL-AMMONIACdSALTeOF ANTIMONY",
    "fCOPPER ANTIMONIATEdSCEPTER OF JOVEdSILVERdSOAPdSPIRITdSTARRED TRIDENTdSTRATUM SUPER STRATUM",
    "fSTRATUM-2dSUBLIMATE OF ANTIMONYfCOPPERfSALT OF ANTIMONYhCOPPERdSUBLIMATIONdSULFURdTARTAR",
    "dTARTAR-2dTIN OREdTINCTUREdTRIDENTdTUTTYdURINEdVERDIGRISdVINEGAReOF ANTIMONYdVINEGAR-2",
    "dVINEGAR-3dVITRIOLdVITRIOL-2dWATERdWAXaALEF SYMBOLaALEMBICaALERTaALIEN MONSTER",
    "aALL AROUND-PROFILEbEQUAL TOaALMaALMOST EQUAL OR EQUAL TOcTOdWITH CIRCUMFLEX ACCENT",
    "aALTERNATE ONE-WAY LEFT WAY TRAFFICaALTERNATIVE KEY SYMBOLaAMALGAMATION OR COPRODUCT",
    "aAMBULANCEaAMERICAN FOOTBALLaAMPERSANDaAMPHORAaANATOLIAN HIEROGLYPH A001cA002cA003cA004cA005",
    "cA006cA007cA008cA009cA010cA010AcA011cA012cA013cA014cA015cA016cA017cA018cA019cA020cA021cA022",
    "cA023cA024cA025cA026cA026AcA027cA028cA029cA030cA031cA032cA033cA034cA035cA036cA037cA038cA039",
    "cA039AcA040cA041cA041AcA042cA043cA044cA045cA045AcA046cA046AcA046BcA047cA048cA049cA050cA051",
    "cA052cA053cA054cA055cA056cA057cA058cA059cA060cA061cA062cA063cA064cA065cA066cA066AcA066B",
    "cA066CcA067cA068cA069cA070cA071cA072cA073cA074cA075cA076cA077cA078cA079cA080cA081cA082cA083",
    "cA084cA085cA086cA087cA088cA089cA090cA091cA092cA093cA094cA095cA096cA097cA097AcA098cA098AcA099",
    "cA100cA100AcA101cA101AcA102cA102AcA103cA104cA104AcA104BcA104CcA105cA105AcA105BcA106cA107",
    "cA107AcA107BcA107CcA108cA109cA110cA110AcA110BcA111cA112cA113cA114cA115cA115AcA116cA117cA118",
    "cA119cA120cA121cA122cA123cA124cA125cA125AcA126cA127cA128cA129cA130cA131cA132cA133cA134cA135",
    "cA135AcA136cA137cA138cA139cA140cA141cA142cA143cA144cA145cA146cA147cA148cA149cA150cA151cA152",
    "cA153cA154cA155cA156cA157cA158cA159cA160cA161cA162cA163cA164cA165cA166cA167cA168cA169cA170",
    "cA171cA172cA173cA174cA175cA176cA177cA178cA179cA180cA181cA182cA183cA184cA185cA186cA187cA188",
    "cA189cA190cA191cA192cA193cA194cA195cA196cA197cA198cA199cA200cA201cA202cA202AcA202BcA203cA204",
    "cA205cA206cA207cA207AcA208cA209cA209AcA210cA211cA212cA213cA214cA215cA215AcA216cA216AcA217",
    "cA218cA219cA220cA221cA222cA223cA224cA225cA226cA227cA227AcA228cA229cA230cA231cA232cA233cA234",
    "cA235cA236cA237cA238cA239cA240cA241cA242cA243cA244cA245cA246cA247cA248cA249cA250cA251cA252",
    "cA253cA254cA255cA256cA257cA258cA259cA260cA261cA262cA263cA264cA265cA266cA267cA267AcA268cA269",
    "cA270cA271cA272cA273cA274cA275cA276cA277cA278cA279cA280cA281cA282cA283cA284cA285cA286cA287",
    "cA288cA289cA289AcA290cA291cA292cA293cA294cA294AcA295cA296cA297cA298cA299cA299AcA300cA301",
    "cA302cA303cA304cA305cA306cA307cA308cA309cA309AcA310cA311cA312cA313cA314cA315cA316cA317cA318",
    "cA319cA320cA321cA322cA323cA324cA325cA326cA327cA328cA329cA329AcA330cA331cA332AcA332BcA332C",
    "cA333cA334cA335cA336cA336AcA336BcA336CcA337cA338cA339cA340cA341cA342cA343cA344cA345cA346",
    "cA347cA348cA349cA350cA351cA352cA353cA354cA355cA356cA357cA358cA359cA359AcA360cA361cA362cA363",
    "cA364cA364AcA365cA366cA367cA368cA368AcA369cA370cA371cA371AcA372cA373cA374cA375cA376cA377",
    "cA378cA379cA380cA381cA381AcA382cA383 RA OR RIcA383AcA384cA385cA386cA386AcA387cA388cA389cA390",
    "cA391cA392cA393 EIGHTcA394cA395cA396cA397cA398cA399cA400cA401cA402cA403cA404cA405cA406cA407",
    "cA408cA409cA410 BEGIN LOGOGRAM MARKcA410A END LOGOGRAM MARKcA411cA412cA413cA414cA415cA416",
    "cA417cA418cA419cA420cA421cA422cA423cA424cA425cA426cA427cA428cA429cA430cA431cA432cA433cA434",
    "cA435cA436cA437cA438cA439cA440cA441cA442cA443cA444cA445cA446cA447cA448cA449cA450cA450AcA451",
    "cA452cA453cA454cA455cA456cA457cA457AcA458cA459cA460cA461cA462cA463cA464cA465cA466cA467cA468",
    "cA469cA470cA471cA472cA473cA474cA475cA476cA477cA478cA479cA480cA481cA482cA483cA484cA485cA486",
    "cA487cA488cA489cA490cA491cA492cA493cA494cA495cA496cA497cA501cA502cA503cA504cA505cA506cA507",
    "cA508cA509cA510cA511cA512cA513cA514cA515cA516cA517cA518cA519cA520cA521cA522cA523cA524cA525",
    "cA526cA527cA528cA529cA530aANATOMICAL HEARTaANCHORaAND WITH DOTaANGER SYMBOLaANGLE",
    "bWITH S INSIDEcUNDERBARaANGRY FACEaANGSTROM SIGNaANGUISHED FACEaANKHaANTaANTENNA WITH BARS",
    "aANTICLOCKWISE CLOSED CIRCLE ARROWbCONTOUR INTEGRALbDOWNWARDS AND UPWARDS OPEN CIRCLE ARROWS",
    "bGAPPED CIRCLE ARROWbINTEGRATIONbOPEN CIRCLE ARROWbTOP SEMICIRCLE ARROW",
    "bTRIANGLE-HEADED BOTTOM U-SHAPED ARROWcLEFT U-SHAPED ARROWcOPEN CIRCLE ARROW",
    "cRIGHT U-SHAPED ARROWcTOP U-SHAPED ARROWaAPCaAPL FUNCTIONAL SYMBOL ALPHAeUNDERBAR",
    "dBACKSLASH BARdCIRCLE BACKSLASHeDIAERESISeJOTeSTAReSTILEeUNDERBARdCOMMA BARdDEL DIAERESIS",
    "eSTILEeTILDEdDELTA STILEeUNDERBARdDIAMOND UNDERBARdDOWN CARET TILDEeSHOE STILEeTACK JOT",
    "fUNDERBARdDOWNWARDS VANEdEPSILON UNDERBARdGREATER-THAN DIAERESISdI-BEAMdIOTAeUNDERBAR",
    "dJOT DIAERESISeUNDERBARdLEFT SHOE STILEdLEFTWARDS VANEdOMEGAeUNDERBARdQUADeBACKSLASHeCIRCLE",
    "eCOLONeDELeDELTAeDIAMONDeDIVIDEeDOWN CARETeDOWNWARDS ARROWeEQUALeGREATER-THANeJOT",
    "eLEFTWARDS ARROWeLESS-THANeNOT EQUALeQUESTIONeRIGHTWARDS ARROWeSLASHeUP CARETeUPWARDS ARROW",
    "dQUOTE QUADeUNDERBARdRHOdRIGHTWARDS VANEdSEMICOLON UNDERBARdSLASH BARdSQUISH QUAD",
    "dSTAR DIAERESISdSTILE TILDEdTILDE DIAERESISdUP CARET TILDEeSHOE JOTeTACK DIAERESISfJOT",
    "fOVERBARdUPWARDS VANEdZILDEaAPOLLONaAPOSTROPHEaAPPLICATION PROGRAM COMMAND",
    "aAPPROACHES THE LIMITaAPPROXIMATELY BUT NOT ACTUALLY EQUAL TObEQUAL OR EQUAL TOcTO",
    "dOR THE IMAGE OFaAQUARIUSaARABIC BASELINE ROUND DOTbCOMMAbCURLY DAMMAcDAMMATANcFATHA",
    "cFATHATANcKASRAcKASRATANbDAMMAcISOLATED FORMcMEDIAL FORMcWITH DOTbDAMMATANcISOLATED FORM",
    "bDATE SEPARATORbDECIMAL SEPARATORbDISPUTED END OF AYAHbDOUBLE RIGHT ARROWHEAD ABOVEfWITH DOT",
    "bDOUBLED MADDAbEMPTY CENTRE HIGH STOPdLOW STOPbEND OF AYAHdTEXT MARKbFATHAcISOLATED FORM",
    "cMEDIAL FORMcWITH DOT ABOVEdRINGdTWO DOTSbFATHATANcISOLATED FORMbFIVE POINTED STAR",
    "bFOOTNOTE MARKERbFULL STOPbHALF MADDA OVER MADDAbHAMZA ABOVEcBELOWbINVERTED DAMMAbKASRA",
    "cISOLATED FORMcMEDIAL FORMcWITH DOT BELOWbKASRATANcISOLATED FORMbLARGE CIRCLE BELOW",
    "cROUND DOT ABOVEeBELOWeINSIDE CIRCLE BELOWbLEFT ARROWHEAD ABOVEdBELOWbLETTER AEcAFRICAN FEH",
    "dNOONdQAFeWITH THREE DOTS ABOVEcAINdFINAL FORMdINITIAL FORMdISOLATED FORMdMEDIAL FORM",
    "dWITH THREE DOTS ABOVEgBELOWgPOINTING DOWNWARDS ABOVEeTWO DOTS ABOVEgVERTICALLY ABOVEcALEF",
    "dFINAL FORMdISOLATED FORMdMAKSURAeFINAL FORMeISOLATED FORMdWASLAeFINAL FORMeISOLATED FORM",
    "dWITH ATTACHED BOTTOM RIGHT KASRAiAND DOT ABOVEjLEFT RINGfFATHAfKASRAfLEFT HAMZAgROUND DOT",
    "fRIGHT HAMZAgROUND DOTfROUND DOT ABOVEhBELOWfTOP RIGHT FATHAiAND DOT ABOVEjLEFT RING",
    "eDOT ABOVEeEXTENDED ARABIC-INDIC DIGIT THREE ABOVEhTWO ABOVEeHAMZA ABOVEgFINAL FORM",
    "gISOLATED FORMfBELOWgFINAL FORMgISOLATED FORMeLEFT MIDDLE STROKEeMADDA ABOVEgFINAL FORM",
    "gISOLATED FORMeRIGHT MIDDLE STROKEhAND DOT ABOVEiLEFT RINGeWAVY HAMZA ABOVEgBELOWcBEEH",
    "dFINAL FORMdINITIAL FORMdISOLATED FORMdMEDIAL FORMcBEHdFINAL FORMdINITIAL FORMdISOLATED FORM",
    "dMEDIAL FORMdWITH DOT BELOW AND THREE DOTS ABOVEeHAMZA ABOVEeINVERTED SMALL V BELOW",
    "eSMALL MEEM ABOVEfVgBELOWeTHREE DOTS HORIZONTALLY BELOWgPOINTING UPWARDS BELOW",
    "jAND TWO DOTS ABOVEeTWO DOTS BELOW AND DOT ABOVEcBEHEHdFINAL FORMdINITIAL FORMdISOLATED FORM",
    "dMEDIAL FORMcDADdFINAL FORMdINITIAL FORMdISOLATED FORMdMEDIAL FORMdWITH DOT BELOWcDAHAL",
    "dFINAL FORMdISOLATED FORMcDALdFINAL FORMdISOLATED FORMdWITH DOT BELOWgAND SMALL TAH",
    "eFOUR DOTS ABOVEeINVERTED SMALL V BELOWfVeRINGeTHREE DOTS ABOVE DOWNWARDSgBELOW",
    "eTWO DOTS VERTICALLY BELOW AND SMALL TAHcDDAHALdFINAL FORMdISOLATED FORMcDDALdFINAL FORM",
    "dISOLATED FORMcDOTLESS BEHdFEHdQAFcDULdFINAL FORMdISOLATED FORMcDYEHdFINAL FORMdINITIAL FORM",
    "dISOLATED FORMdMEDIAL FORMcEdFINAL FORMdINITIAL FORMdISOLATED FORMdMEDIAL FORMcFARSI YEH",
    "eFINAL FORMeINITIAL FORMeISOLATED FORMeMEDIAL FORM",
    "eWITH EXTENDED ARABIC-INDIC DIGIT FOUR BELOWiTHREE ABOVEiTWO ABOVEfINVERTED V",
    "fTHREE DOTS ABOVEfTWO DOTS ABOVEcFEHdFINAL FORMdINITIAL FORMdISOLATED FORMdMEDIAL FORM",
    "dWITH DOT BELOWgAND THREE DOTS ABOVEfMOVED BELOWeTHREE DOTS BELOWgPOINTING UPWARDS BELOW",
    "eTWO DOTS BELOWcGAFdFINAL FORMdINITIAL FORMdISOLATED FORMdMEDIAL FORMdWITH INVERTED STROKE",
    "eRINGeTHREE DOTS ABOVEeTWO DOTS BELOWcGHAINdFINAL FORMdINITIAL FORMdISOLATED FORM",
    "dMEDIAL FORMdWITH DOT BELOWeTHREE DOTS ABOVEcGRAFcGUEHdFINAL FORMdINITIAL FORMdISOLATED FORM",
    "dMEDIAL FORMcHAHdFINAL FORMdINITIAL FORMdISOLATED FORMdMEDIAL FORM",
    "dWITH EXTENDED ARABIC-INDIC DIGIT FOUR BELOWeHAMZA ABOVEeINVERTED SMALL V BELOW",
    "eSMALL ARABIC LETTER TAH ABOVEiAND TWO DOTSiBELOWeTHREE DOTS ABOVEgPOINTING UPWARDS BELOW",
    "eTWO DOTS ABOVEgVERTICAL ABOVEcHAMZAdISOLATED FORMcHEHdDOACHASHMEEeFINAL FORMeINITIAL FORM",
    "eISOLATED FORMeMEDIAL FORMdFINAL FORMdGOALeFINAL FORMeINITIAL FORMeISOLATED FORMeMEDIAL FORM",
    "eWITH HAMZA ABOVEdINITIAL FORMdISOLATED FORMdMEDIAL FORMdWITH INVERTED VeYEH ABOVE",
    "gFINAL FORMgISOLATED FORMcHIGH HAMZAeALEFeWAWeYEHcJEEMdFINAL FORMdINITIAL FORMdISOLATED FORM",
    "dMEDIAL FORMdWITH THREE DOTS ABOVEgBELOWeTWO DOTS ABOVEcJEHdFINAL FORMdISOLATED FORMcKAF",
    "dFINAL FORMdINITIAL FORMdISOLATED FORMdMEDIAL FORMdWITH DOT ABOVEfBELOWeRING",
    "eTHREE DOTS BELOWeTWO DOTS ABOVEcKASHMIRI YEHcKEHEHdFINAL FORMdINITIAL FORMdISOLATED FORM",
    "dMEDIAL FORMdWITH DOT ABOVEeSMALL VeTHREE DOTS ABOVEgBELOWgPOINTING UPWARDS BELOW",
    "eTWO DOTS ABOVEgVERTICALLY BELOWcKHAHdFINAL FORMdINITIAL FORMdISOLATED FORMdMEDIAL FORM",
    "cKIRGHIZ OEeFINAL FORMeISOLATED FORMdYUeFINAL FORMeISOLATED FORMcLAMdFINAL FORMdINITIAL FORM",
    "dISOLATED FORMdMEDIAL FORMdWITH BAReDOT ABOVEeDOUBLE BAReSMALL ARABIC LETTER TAH ABOVEfV",
    "eTHREE DOTS ABOVEgBELOWcLOW ALEFcMARKcMEEMdFINAL FORMdINITIAL FORMdISOLATED FORMdMEDIAL FORM",
    "dWITH DOT ABOVEfBELOWeTHREE DOTS ABOVEcNGdFINAL FORMdINITIAL FORMdISOLATED FORMdMEDIAL FORM",
    "cNGOEHdFINAL FORMdINITIAL FORMdISOLATED FORMdMEDIAL FORMcNOONdFINAL FORMdGHUNNAeFINAL FORM",
    "eISOLATED FORMdINITIAL FORMdISOLATED FORMdMEDIAL FORMdWITH DOT BELOWeINVERTED SMALL VeRING",
    "eSMALL TAHfVeTHREE DOTS ABOVEeTWO DOTS BELOWcNYEHdFINAL FORMdINITIAL FORMdISOLATED FORM",
    "dMEDIAL FORMcOEdFINAL FORMdISOLATED FORMcPEHdFINAL FORMdINITIAL FORMdISOLATED FORM",
    "dMEDIAL FORMdWITH SMALL MEEM ABOVEfVcPEHEHdFINAL FORMdINITIAL FORMdISOLATED FORMdMEDIAL FORM",
    "cQAFdFINAL FORMdINITIAL FORMdISOLATED FORMdMEDIAL FORMdWITH DOT ABOVEfBELOW",
    "gAND NO DOTS ABOVEeTHREE DOTS ABOVEcREHdFINAL FORMdISOLATED FORMdWITH DOT BELOW",
    "gAND DOT ABOVEeFOUR DOTS ABOVEeHAMZA ABOVEeINVERTED VeLOOPeRING",
    "eSMALL ARABIC LETTER TAH AND TWO DOTSfNOON ABOVEfVgBELOWeSTROKEeTWO DOTS ABOVE",
    "gVERTICALLY ABOVEcRNOONdFINAL FORMdINITIAL FORMdISOLATED FORMdMEDIAL FORMcROHINGYA YEHcRREH",
    "dFINAL FORMdISOLATED FORMcSADdFINAL FORMdINITIAL FORMdISOLATED FORMdMEDIAL FORM",
    "dWITH THREE DOTS ABOVEgBELOWeTWO DOTS BELOWcSEENdFINAL FORMdINITIAL FORMdISOLATED FORM",
    "dMEDIAL FORMdWITH DOT BELOW AND DOT ABOVEeEXTENDED ARABIC-INDIC DIGIT FOUR ABOVE",
    "eFOUR DOTS ABOVEeINVERTED VeSMALL ARABIC LETTER TAH AND TWO DOTSeTHREE DOTS BELOW",
    "hAND THREE DOTS ABOVEeTWO DOTS VERTICALLY ABOVEcSHEENdFINAL FORMdINITIAL FORMdISOLATED FORM",
    "dMEDIAL FORMdWITH DOT BELOWcSTRAIGHT WAWcSUPERSCRIPT ALEFcSWASH KAFcTAHdFINAL FORM",
    "dINITIAL FORMdISOLATED FORMdMEDIAL FORMdWITH DOT BELOWeTHREE DOTS ABOVEgBELOWeTWO DOTS ABOVE",
    "cTCHEHdFINAL FORMdINITIAL FORMdISOLATED FORMdMEDIAL FORMdWITH DOT ABOVEeSMALL VcTCHEHEH",
    "dFINAL FORMdINITIAL FORMdISOLATED FORMdMEDIAL FORMcTEHdFINAL FORMdINITIAL FORMdISOLATED FORM",
    "dMARBUTAeFINAL FORMeGOALeISOLATED FORMdMEDIAL FORMdWITH RINGeSMALL TEH ABOVEfV",
    "eTHREE DOTS ABOVE DOWNWARDScTEHEHdFINAL FORMdINITIAL FORMdISOLATED FORMdMEDIAL FORMcTHAL",
    "dFINAL FORMdISOLATED FORMcTHEHdFINAL FORMdINITIAL FORMdISOLATED FORMdMEDIAL FORMcTHIN YEH",
    "cTTEHdFINAL FORMdINITIAL FORMdISOLATED FORMdMEDIAL FORMdWITH SMALL VcTTEHEHdFINAL FORM",
    "dINITIAL FORMdISOLATED FORMdMEDIAL FORMcUdFINAL FORMdISOLATED FORMdWITH HAMZA ABOVE",
    "gISOLATED FORMcUIGHUR KAZAKH KIRGHIZ ALEF MAKSURA INITIAL FORMhMEDIAL FORMcVEdFINAL FORM",
    "dISOLATED FORMcVEHdFINAL FORMdINITIAL FORMdISOLATED FORMdMEDIAL FORMcWAWdFINAL FORM",
    "dISOLATED FORMdWITH DOT ABOVEfWITHINeEXTENDED ARABIC-INDIC DIGIT THREE ABOVEhTWO ABOVE",
    "eHAMZA ABOVEgFINAL FORMgISOLATED FORMeRINGeTWO DOTS ABOVEcYEHdBARREEeFINAL FORM",
    "eISOLATED FORMeWITH EXTENDED ARABIC-INDIC DIGIT THREE ABOVEiTWO ABOVEfHAMZA ABOVEhFINAL FORM",
    "hISOLATED FORMdFINAL FORMdINITIAL FORMdISOLATED FORMdMEDIAL FORMdWITH HAMZA ABOVEgFINAL FORM",
    "gINITIAL FORMgISOLATED FORMgMEDIAL FORMeSMALL VeTAILeTHREE DOTS BELOW",
    "eTWO DOTS BELOW AND DOT ABOVEiHAMZA ABOVEiSMALL NOON ABOVEcYUdFINAL FORMdISOLATED FORMcZAH",
    "dFINAL FORMdINITIAL FORMdISOLATED FORMdMEDIAL FORMcZAINdFINAL FORMdISOLATED FORM",
    "dWITH INVERTED V ABOVEbLIGATURE AIN WITH ALEF MAKSURA FINAL FORMgISOLATED FORM",
    "eJEEM INITIAL FORMfISOLATED FORMfWITH MEEM FINAL FORMhINITIAL FORMeMEEM INITIAL FORM",
    "fISOLATED FORMfWITH ALEF MAKSURA FINAL FORMgMEEM FINAL FORMhINITIAL FORMgYEH FINAL FORM",
    "eYEH FINAL FORMfISOLATED FORMcAKBAR ISOLATED FORMcALAYHAA AS-SALAAMcALAYHE ISOLATED FORM",
    "cALAYHI AS-SALAAMdAS-SALAATU WAS-SALAAMcALAYHIM AS-SALAAMcALAYHIMAA AS-SALAAM",
    "cALEF MAKSURA WITH SUPERSCRIPT ALEF FINAL FORMhISOLATED FORMdWITH FATHATAN FINAL FORM",
    "fISOLATED FORMcALLAH ISOLATED FORMcAZZA WA JALLcBEH WITH ALEF MAKSURA FINAL FORM",
    "gISOLATED FORMeHAH INITIAL FORMfISOLATED FORMfWITH YEH FINAL FORMeHEH INITIAL FORM",
    "fMEDIAL FORMeJEEM INITIAL FORMfISOLATED FORMeKHAH INITIAL FORMfISOLATED FORM",
    "fWITH YEH FINAL FORMeMEEM FINAL FORMfINITIAL FORMfISOLATED FORMfMEDIAL FORMeNOON FINAL FORM",
    "eREH FINAL FORMeYEH FINAL FORMfISOLATED FORMeZAIN FINAL FORMcBISMILLAH AR-RAHMAN AR-RAHEEM",
    "cDAD WITH ALEF MAKSURA FINAL FORMgISOLATED FORMeHAH INITIAL FORMfISOLATED FORM",
    "fWITH ALEF MAKSURA FINAL FORMgYEH FINAL FORMeJEEM INITIAL FORMfISOLATED FORM",
    "eKHAH INITIAL FORMfISOLATED FORMfWITH MEEM FINAL FORMhINITIAL FORMeMEEM INITIAL FORM",
    "fISOLATED FORMeREH FINAL FORMfISOLATED FORMeYEH FINAL FORMfISOLATED FORM",
    "cFEH WITH ALEF MAKSURA FINAL FORMgISOLATED FORMeHAH INITIAL FORMfISOLATED FORM",
    "eJEEM INITIAL FORMfISOLATED FORMeKHAH INITIAL FORMfISOLATED FORMfWITH MEEM FINAL FORM",
    "hINITIAL FORMeMEEM INITIAL FORMfISOLATED FORMfWITH YEH FINAL FORMeYEH FINAL FORM",
    "fISOLATED FORMcGHAIN WITH ALEF MAKSURA FINAL FORMgISOLATED FORMeJEEM INITIAL FORM",
    "fISOLATED FORMeMEEM INITIAL FORMfISOLATED FORMfWITH ALEF MAKSURA FINAL FORMgMEEM FINAL FORM",
    "gYEH FINAL FORMeYEH FINAL FORMfISOLATED FORMcHAH WITH ALEF MAKSURA FINAL FORMgISOLATED FORM",
    "eJEEM INITIAL FORMfISOLATED FORMfWITH YEH FINAL FORMeMEEM INITIAL FORMfISOLATED FORM",
    "fWITH ALEF MAKSURA FINAL FORMgYEH FINAL FORMeYEH FINAL FORMfISOLATED FORM",
    "cHEH WITH ALEF MAKSURA ISOLATED FORMeJEEM INITIAL FORMfISOLATED FORMeMEEM INITIAL FORM",
    "fISOLATED FORMfWITH JEEM INITIAL FORMgMEEM INITIAL FORMeSUPERSCRIPT ALEF INITIAL FORM",
    "eYEH ISOLATED FORMcJALLAJALALOUHOUcJEEM WITH ALEF MAKSURA FINAL FORMgISOLATED FORM",
    "eHAH INITIAL FORMfISOLATED FORMfWITH ALEF MAKSURA FINAL FORMgYEH FINAL FORM",
    "eMEEM INITIAL FORMfISOLATED FORMfWITH ALEF MAKSURA FINAL FORMgHAH FINAL FORMhINITIAL FORM",
    "gYEH FINAL FORMeYEH FINAL FORMfISOLATED FORMcKAF WITH ALEF FINAL FORMfISOLATED FORM",
    "fMAKSURA FINAL FORMgISOLATED FORMeHAH INITIAL FORMfISOLATED FORMeJEEM INITIAL FORM",
    "fISOLATED FORMeKHAH INITIAL FORMfISOLATED FORMeLAM FINAL FORMfINITIAL FORMfISOLATED FORM",
    "fMEDIAL FORMeMEEM FINAL FORMfINITIAL FORMfISOLATED FORMfMEDIAL FORMfWITH MEEM FINAL FORM",
    "hINITIAL FORMgYEH FINAL FORMeYEH FINAL FORMfISOLATED FORMcKHAH WITH ALEF MAKSURA FINAL FORM",
    "gISOLATED FORMeHAH ISOLATED FORMeJEEM INITIAL FORMfISOLATED FORMeMEEM INITIAL FORM",
    "fISOLATED FORMeYEH FINAL FORMfISOLATED FORMcLAM WITH ALEF FINAL FORMfISOLATED FORM",
    "fMAKSURA FINAL FORMgISOLATED FORMfWITH HAMZA ABOVE FINAL FORMiISOLATED FORMhBELOW FINAL FORM",
    "iISOLATED FORMgMADDA ABOVE FINAL FORMiISOLATED FORMeHAH INITIAL FORMfISOLATED FORM",
    "fWITH ALEF MAKSURA FINAL FORMgMEEM FINAL FORMhINITIAL FORMgYEH FINAL FORMeHEH INITIAL FORM",
    "eJEEM INITIAL FORMfISOLATED FORMfWITH JEEM FINAL FORMhINITIAL FORMgMEEM FINAL FORM",
    "hINITIAL FORMgYEH FINAL FORMeKHAH INITIAL FORMfISOLATED FORMfWITH MEEM FINAL FORM",
    "hINITIAL FORMeMEEM FINAL FORMfINITIAL FORMfISOLATED FORMfMEDIAL FORMfWITH HAH FINAL FORM",
    "hINITIAL FORMgYEH FINAL FORMeYEH FINAL FORMfISOLATED FORMcMEEM WITH ALEF FINAL FORM",
    "fMAKSURA ISOLATED FORMeHAH INITIAL FORMfISOLATED FORMfWITH JEEM INITIAL FORM",
    "gMEEM INITIAL FORMgYEH FINAL FORMeJEEM INITIAL FORMfISOLATED FORMfWITH HAH INITIAL FORM",
    "gKHAH INITIAL FORMgMEEM INITIAL FORMgYEH FINAL FORMeKHAH INITIAL FORMfISOLATED FORM",
    "fWITH JEEM INITIAL FORMgMEEM INITIAL FORMgYEH FINAL FORMeMEEM FINAL FORMfINITIAL FORM",
    "fISOLATED FORMfWITH YEH FINAL FORMeYEH ISOLATED FORMcMOHAMMAD ISOLATED FORM",
    "cNOON WITH ALEF MAKSURA FINAL FORMgISOLATED FORMeHAH INITIAL FORMfISOLATED FORM",
    "fWITH ALEF MAKSURA FINAL FORMgMEEM INITIAL FORMgYEH FINAL FORMeHEH INITIAL FORMfMEDIAL FORM",
    "eJEEM INITIAL FORMfISOLATED FORMfWITH ALEF MAKSURA FINAL FORMgHAH FINAL FORMhINITIAL FORM",
    "gMEEM FINAL FORMhINITIAL FORMgYEH FINAL FORMeKHAH INITIAL FORMfISOLATED FORMeMEEM FINAL FORM",
    "fINITIAL FORMfISOLATED FORMfMEDIAL FORMfWITH ALEF MAKSURA FINAL FORMgYEH FINAL FORM",
    "eNOON FINAL FORMeREH FINAL FORMeYEH FINAL FORMfISOLATED FORMeZAIN FINAL FORM",
    "cQAF WITH ALEF MAKSURA FINAL FORMgISOLATED FORMeHAH INITIAL FORMfISOLATED FORM",
    "eMEEM INITIAL FORMfISOLATED FORMfWITH HAH FINAL FORMhINITIAL FORMgMEEM FINAL FORM",
    "gYEH FINAL FORMeYEH FINAL FORMfISOLATED FORMcQALA USED AS KORANIC STOP SIGN ISOLATED FORM",
    "cQUDDISA SIRRAHcRADI ALLAAHU ANHeANHAAeANHUMeANHUMAAeANHUNNAcRAHIMAHU ALLAAH",
    "cRAHIMAHUM ALLAAHcRASOUL ISOLATED FORMcREH WITH SUPERSCRIPT ALEF ISOLATED FORM",
    "cSAD WITH ALEF MAKSURA FINAL FORMgISOLATED FORMeHAH INITIAL FORMfISOLATED FORM",
    "fWITH HAH FINAL FORMhINITIAL FORMgYEH FINAL FORMeKHAH INITIAL FORMeMEEM INITIAL FORM",
    "fISOLATED FORMfWITH MEEM FINAL FORMhINITIAL FORMeREH FINAL FORMfISOLATED FORMeYEH FINAL FORM",
    "fISOLATED FORMcSALAAMUHU ALAYNAAcSALAM ISOLATED FORMcSALLA ISOLATED FORM",
    "dUSED AS KORANIC STOP SIGN ISOLATED FORMcSALLALLAAHU ALAYHI WA-AALIH",
    "cSALLALLAHOU ALAYHE WASALLAMcSALLALLAHU ALAYHI WAAALIHEE WA-SALLAM",
    "cSEEN WITH ALEF MAKSURA FINAL FORMgISOLATED FORMeHAH INITIAL FORMfISOLATED FORMfMEDIAL FORM",
    "fWITH JEEM INITIAL FORMeHEH INITIAL FORMfMEDIAL FORMeJEEM INITIAL FORMfISOLATED FORM",
    "fMEDIAL FORMfWITH ALEF MAKSURA FINAL FORMgHAH INITIAL FORMeKHAH INITIAL FORMfISOLATED FORM",
    "fMEDIAL FORMfWITH ALEF MAKSURA FINAL FORMgYEH FINAL FORMeMEEM INITIAL FORMfISOLATED FORM",
    "fMEDIAL FORMfWITH HAH FINAL FORMhINITIAL FORMgJEEM INITIAL FORMgMEEM FINAL FORMhINITIAL FORM",
    "eREH FINAL FORMfISOLATED FORMeYEH FINAL FORMfISOLATED FORMcSHADDA WITH DAMMA ISOLATED FORM",
    "fMEDIAL FORMeDAMMATAN ISOLATED FORMeFATHA ISOLATED FORMfMEDIAL FORMeKASRA ISOLATED FORM",
    "fMEDIAL FORMeKASRATAN ISOLATED FORMeSUPERSCRIPT ALEF ISOLATED FORM",
    "cSHEEN WITH ALEF MAKSURA FINAL FORMgISOLATED FORMeHAH FINAL FORMfINITIAL FORMfISOLATED FORM",
    "fMEDIAL FORMfWITH MEEM FINAL FORMhINITIAL FORMgYEH FINAL FORMeHEH INITIAL FORMfMEDIAL FORM",
    "eJEEM FINAL FORMfINITIAL FORMfISOLATED FORMfMEDIAL FORMfWITH YEH FINAL FORMeKHAH FINAL FORM",
    "fINITIAL FORMfISOLATED FORMfMEDIAL FORMeMEEM FINAL FORMfINITIAL FORMfISOLATED FORM",
    "fMEDIAL FORMfWITH KHAH FINAL FORMhINITIAL FORMgMEEM FINAL FORMhINITIAL FORMeREH FINAL FORM",
    "fISOLATED FORMeYEH FINAL FORMfISOLATED FORMcSUBHAANAHU WA TAAALAAcTABAARAKA WA-TAAALAA",
    "cTAH WITH ALEF MAKSURA FINAL FORMgISOLATED FORMeHAH INITIAL FORMfISOLATED FORM",
    "eMEEM INITIAL FORMfISOLATED FORMfMEDIAL FORMfWITH HAH FINAL FORMhINITIAL FORM",
    "gMEEM INITIAL FORMgYEH FINAL FORMeYEH FINAL FORMfISOLATED FORM",
    "cTEH WITH ALEF MAKSURA FINAL FORMgISOLATED FORMeHAH INITIAL FORMfISOLATED FORM",
    "fWITH JEEM FINAL FORMhINITIAL FORMgMEEM INITIAL FORMeHEH INITIAL FORMfMEDIAL FORM",
    "eJEEM INITIAL FORMfISOLATED FORMfWITH ALEF MAKSURA FINAL FORMgMEEM INITIAL FORM",
    "gYEH FINAL FORMeKHAH INITIAL FORMfISOLATED FORMfWITH ALEF MAKSURA FINAL FORM",
    "gMEEM INITIAL FORMgYEH FINAL FORMeMEEM FINAL FORMfINITIAL FORMfISOLATED FORMfMEDIAL FORM",
    "fWITH ALEF MAKSURA FINAL FORMgHAH INITIAL FORMgJEEM INITIAL FORMgKHAH INITIAL FORM",
    "gYEH FINAL FORMeNOON FINAL FORMeREH FINAL FORMeYEH FINAL FORMfISOLATED FORMeZAIN FINAL FORM",
    "cTHAL WITH SUPERSCRIPT ALEF ISOLATED FORMcTHEH WITH ALEF MAKSURA FINAL FORMgISOLATED FORM",
    "eHEH MEDIAL FORMeJEEM ISOLATED FORMeMEEM FINAL FORMfINITIAL FORMfISOLATED FORMfMEDIAL FORM",
    "eNOON FINAL FORMeREH FINAL FORMeYEH FINAL FORMfISOLATED FORMeZAIN FINAL FORM",
    "cUIGHUR KIRGHIZ YEH WITH HAMZA ABOVE WITH ALEF MAKSURA FINAL FORMlINITIAL FORMlISOLATED FORM",
    "cWASALLAM ISOLATED FORMcYEH WITH ALEF MAKSURA FINAL FORMgISOLATED FORMeHAH INITIAL FORM",
    "fISOLATED FORMfWITH YEH FINAL FORMeHAMZA ABOVE WITH AE FINAL FORMiISOLATED FORM",
    "hALEF FINAL FORMiISOLATED FORMiMAKSURA FINAL FORMjISOLATED FORMhE FINAL FORMiINITIAL FORM",
    "iISOLATED FORMhHAH INITIAL FORMiISOLATED FORMhHEH INITIAL FORMiMEDIAL FORMhJEEM INITIAL FORM",
    "iISOLATED FORMhKHAH INITIAL FORMhMEEM FINAL FORMiINITIAL FORMiISOLATED FORMiMEDIAL FORM",
    "hNOON FINAL FORMhOE FINAL FORMiISOLATED FORMhREH FINAL FORMhU FINAL FORMiISOLATED FORM",
    "hWAW FINAL FORMiISOLATED FORMhYEH FINAL FORMiISOLATED FORMhYU FINAL FORMiISOLATED FORM",
    "hZAIN FINAL FORMeHEH INITIAL FORMfMEDIAL FORMeJEEM INITIAL FORMfISOLATED FORM",
    "fWITH YEH FINAL FORMeKHAH INITIAL FORMfISOLATED FORMeMEEM FINAL FORMfINITIAL FORM",
    "fISOLATED FORMfMEDIAL FORMfWITH MEEM FINAL FORMhINITIAL FORMgYEH FINAL FORMeNOON FINAL FORM",
    "eREH FINAL FORMeYEH FINAL FORMfISOLATED FORMeZAIN FINAL FORMcZAH WITH MEEM INITIAL FORM",
    "fISOLATED FORMfMEDIAL FORMbMADDA WAAJIBbMADDAH ABOVEbMARK NOON GHUNNAcSIDEWAYS NOON GHUNNA",
    "bMATHEMATICAL AINcALEFcBEHcDADcDALcDOTLESS BEHdFEHdNOONdQAFcDOUBLE-STRUCK AINdBEHdDADdDAL",
    "dFEHdGHAINdHAHdJEEMdKHAHdLAMdMEEMdNOONdQAFdREHdSADdSEENdSHEENdTAHdTEHdTHALdTHEHdWAWdYEHdZAH",
    "dZAINcFEHcGHAINcHAHcINITIAL AINdBEHdDADdFEHdGHAINdHAHdHEHdJEEMdKAFdKHAHdLAMdMEEMdNOONdQAF",
    "dSADdSEENdSHEENdTEHdTHEHdYEHcJEEMcKAFcKHAHcLAMcLOOPED AINdALEFdBEHdDADdDALdFEHdGHAINdHAHdHEH",
    "dJEEMdKHAHdLAMdMEEMdNOONdQAFdREHdSADdSEENdSHEENdTAHdTEHdTHALdTHEHdWAWdYEHdZAHdZAINcMEEMcNOON",
    "cOPERATOR HAH WITH DALdMEEM WITH HAH WITH TATWEELcQAFcREHcSADcSEENcSHEENcSTRETCHED AINdBEH",
    "dDADdDOTLESS BEHeFEHdFEHdGHAINdHAHdHEHdJEEMdKAFdKHAHdMEEMdNOONdQAFdSADdSEENdSHEENdTAHdTEH",
    "dTHEHdYEHdZAHcTAHcTAILED AINdDADdDOTLESS NOONeQAFdGHAINdHAHdJEEMdKHAHdLAMdNOONdQAFdSADdSEEN",
    "dSHEENdYEHcTEHcTHALcTHEHcWAWcYEHcZAHcZAINbNUMBER MARK ABOVEcSIGNbOPEN DAMMATANcFATHATAN",
    "cKASRATANbPERCENT SIGNbPIASTRE MARK ABOVEbPLACE OF SAJDAHbPOETIC VERSE SIGNbPOUND MARK ABOVE",
    "bQUESTION MARKbRAISED ROUND DOTbRAYbREVERSED DAMMAbRIGHT ARROWHEAD ABOVEeWITH DOTdBELOW",
    "bROUNDED HIGH STOP WITH FILLED CENTREbSEMICOLONbSHADDAcISOLATED FORMcMEDIAL FORM",
    "bSIGN ALAYHE ASSALLAMcMISRAcRADI ALLAHOU ANHUcRAHMATULLAH ALAYHEcSAFHA",
    "cSALLALLAHOU ALAYHE WASSALLAMcSAMVATcSANAHcSINDHI AMPERSANDdPOSTPOSITION MENcTAKHALLUS",
    "bSMALL DAMMAcFARSI YEHcFATHAcHIGH AINdDOTLESS HEAD OF KHAHdFARSI YEHdFOOTNOTE MARKERdJEEM",
    "dLAM ALEFdLIGATURE ALEF WITH LAM WITH YEHeQAF WITH LAM WITH ALEF MAKSURA",
    "eSAD WITH LAM WITH ALEF MAKSURAdMADDAdMEEM INITIAL FORMeISOLATED FORMdNOONeWITH KASRAdQAF",
    "dROUNDED ZEROdSADdSEENdSIGN SAFHAdTAHdTHREE DOTSdUPRIGHT RECTANGULAR ZEROdWAWdWORD AL-JUZ",
    "eAN-NISFeAR-RUBeAS-SAJDAeATH-THALATHAeQIFeSAHeSAKTAeWAQFAdYEHeBARREE WITH TWO DOTS BELOWdZAH",
    "dZAINcKASRAcLOW MEEMdNOON WITH KASRAdSEENdWAWdWORD IMAALAeISHMAAMeTASHEELcWAWcYEH",
    "bSTART OF RUB EL HIZBbSUBSCRIPT ALEFbSUKUNcBELOWcISOLATED FORMcMEDIAL FORM",
    "bSUPERSCRIPT ALEF MOKHASSASbSYMBOL DOT ABOVEdBELOWcDOUBLE VERTICAL BAR BELOWcFOUR DOTS ABOVE",
    "eBELOWcRINGcSMALL TAH ABOVEeBELOWcTHREE DOTS ABOVEeBELOWePOINTING DOWNWARDS ABOVEgBELOW",
    "cTWO DOTS ABOVEeBELOWeVERTICALLY ABOVEfBELOWcWASLA ABOVEbTAIL FRAGMENTbTATWEEL",
    "cWITH FATHATAN ABOVEdOVERSTRUCK HAMZAeWAWdTWO DOTS BELOWbTHOUSANDS SEPARATORbTONE LOOP ABOVE",
    "dBELOWcONE DOT ABOVEeBELOWcTWO DOTS ABOVEeBELOWbTRIPLE DOT PUNCTUATION MARK",
    "bTURNED DAMMA BELOWbVERTICAL TAILbVOWEL SIGN DOT BELOWdINVERTED SMALL V ABOVEdSMALL V ABOVE",
    "bWAVY HAMZA BELOWbZWARAKAYaARABIC-INDIC CUBE ROOTbDIGIT EIGHTcFIVEcFOURcNINEcONEcSEVENcSIX",
    "cTHREEcTWOcZERObFOURTH ROOTbPER MILLE SIGNcTEN THOUSAND SIGNaARCaARIES",
    "aARMENIAN ABBREVIATION MARKbAPOSTROPHEbCAPITAL LETTER AYBdBENdCAdCHAdCHEHdCOdDAdECHdEHdET",
    "dFEHdGHADdGIMdHOdINIdJAdJHEHdKEHdKENdLIWNdMENdNOWdOHdPEHdPIWRdRAdREHdSEHdSHAdTIWNdTOdVEWdVO",
    "dXEHdYIdYIWNdZAdZHEbCOMMAbDRAM SIGNbEMPHASIS MARKbEXCLAMATION MARKbFULL STOPbHYPHEN",
    "bMODIFIER LETTER LEFT HALF RINGbQUESTION MARKbSMALL LETTER AYBdBENdCAdCHAdCHEHdCOdDAdECHdEH",
    "dETdFEHdGHADdGIMdHOdINIdJAdJHEHdKEHdKENdLIWNdMENdNOWdOHdPEHdPIWRdRAdREHdSEHdSHAdTIWNdTO",
    "dTURNED AYBdVEWdVOdXEHdYIeWITH STROKEdYIWNdZAdZHEcLIGATURE ECH YIWNdMEN ECHeINIeNOWeXEH",
    "dVEW NOWaARROW POINTING DOWNWARDS THEN CURVING LEFTWARDSfRIGHTWARDS",
    "cRIGHTWARDS THEN CURVING DOWNWARDSfSOUTH WESTfUPWARDScUPWARDS THEN NORTH WEST",
    "aARROWHEAD-SHAPED POINTERaARTICULATED LORRYaARTIST PALETTEaASCENDING NODEaASCIA SYMBOL",
    "aASSERTIONaASTERISKbOPERATORaASTERISMaASTONISHED FACEaASTRAEAaASTRONOMICAL SYMBOL FOR URANUS",
    "aASYMPTOTICALLY EQUAL TOaATHLETIC SHOEaATOM SYMBOLaAUBERGINEaAUSTRAL SIGNaAUTO RICKSHAW",
    "aAUTOMATED TELLER MACHINEaAUTOMOBILEaAVESTAN ABBREVIATION MARKbLETTER AcAAcAANcAAOcAEcAEEcAN",
    "cAOcBEcBHEcCEcDEcDHEcEcEEcFEcGEcGGEcGHEcHEcHMEcIcIIcJEcKEcLEcMEcNEcNGEcNGVEcNGYEcNNEcNYEcO",
    "cOOcPEcREcSEcSHEcSHYEcSSHEcTEcTHEcTTEcUcUUcVEcXEcXVEcXYEcYEcYYEcZEcZHEaAVOCADOaAXEaBABY",
    "bANGELbBOTTLEbCHICKbSYMBOLaBACK OF ENVELOPEbWITH LEFTWARDS ARROW ABOVE",
    "aBACK-TILTED SHADOWED WHITE RIGHTWARDS ARROWaBACKSLANTED SOUTH ARROW WITH HOOKED TAIL",
    "eHORIZONTAL TAILaBACKSPACEaBACONaBACTRIAN CAMELaBADGERaBADMINTON RACQUET AND SHUTTLECOCK",
    "aBAGELaBAGGAGE CLAIMaBAGUETTE BREADaBALINESE ADEG ADEGbCARIK PAMUNGKAHcPARERENcSIKI",
    "bDIGIT EIGHTcFIVEcFOURcNINEcONEcSEVENcSIXcTHREEcTWOcZERObLETTER AIKARAcAKARAdTEDUNG",
    "cARCHAIC JNYAcASYURA SASAKcBAdKEMBANGcCAdLACAcDAdMADUdMURDA ALPAPRANAeMAHAPRANAcEF SASAK",
    "cEKARAcGAdGORAcHAcIKARAdTEDUNGcJAdJERAcKAdMAHAPRANAcKAF SASAKcKHOT SASAKcLAdLENGAeTEDUNGcMA",
    "cNAdRAMBATcNGAcNYAcOKARAdTEDUNGcPAdKAPALcRAdREPAeTEDUNGcSAdSAGAdSAPAcTAdLATIK",
    "dMURDA MAHAPRANAdTAWAcTZIR SASAKcUKARAdTEDUNGcVE SASAKcWAcYAcZAL SASAK",
    "bMUSICAL SYMBOL COMBINING BENDEeENDEPeGONGeJEGOGANeKEMPLIfWITH JEGOGANeKEMPULfWITH JEGOGAN",
    "eTEGEHdDAENGdDAINGdDANGeGEDEeSURANGdDENGdDEUNGdDINGdDONGdDUNGdLEFT-HAND CLOSED PLAKfPLUK",
    "eOPEN PANGfPINGfPUNGdRIGHT-HAND CLOSED TAKfTUKeOPEN DAGfDUGbPAMADAcLANTANGbPAMENENGbPANTI",
    "cLANTANGbSIGN BISAHcCECEKcREREKANcSURANGcULU CANDRAdRICEMbVOWEL SIGN LA LENGAfTEDUNGdPEPET",
    "eTEDUNGdRA REPAfTEDUNGdSUKUeILUTdTALINGeREPAfTEDUNGeTEDUNGdTEDUNGdULUeSARIbWINDU",
    "aBALL OF YARNaBALLET SHOESaBALLOONaBALLOON-SPOKED ASTERISKaBALLOT BOLD SCRIPT XbBOX",
    "cWITH BALLOTdBOLD CHECKeSCRIPT XdCHECKdLIGHT XdSCRIPT XdXbSCRIPT XbXaBAMUM COLON",
    "bCOMBINING MARK KOQNDONdTUKWENTISbCOMMAbFULL STOPbLETTER AcEEcFAAMAEcFEEcFOMcFUcIcKAcKENcKET",
    "cKEUXcKIcKOcKOGHOMcKOVUUcKPAcKUcKYEEcLAcLEEEEcLIcLOQcLUcMcMAcMBAAcMBENcMEEEEcMENcMIcMOcMUcNA",
    "cNDAAcNGAcNGGAcNGKWAENcNIcNJAEMcNJEEcNJUAEcNSHAcNTEEcNTUUcNUcNUAEcNYIcOcPAcPEEcPEUX",
    "cPHASE-A FIRIdGBIEE FONdGHEUAEGHEUAEdGHEUAERAEdKAFAdKAQdKETdKEUKEUTNDAdKPOQdKUOQdLAPAQ",
    "dLET KUTdLOMMAEdLUdLUAEPdMAEKEUPdMAEMdMAEMBGBIEEdMAEMKPENdMAEMVEUXdMAENYIdMAESIdMANSUAE",
    "dMAP PIEETdMBANYIdMBAQdMEUNJOMNDEUQdMGBASAdMON NGGEUAETdMOOMEUTdMOOMPUQdMVEUAENGAMdNAA MFON",
    "dNAQdNDA LEERAEWAdNDAANGGEUAETdNENdNGANGUdNGGENdNGKUE MFONdNGKUENZEUMdNIKAdNJAMdNKAARAE",
    "dNKINDIdNSHAdNSHIEEdNTAPeMFAAeNTAAdNTOQPENdNYETdNYIdNYIT MONGKEUAEQdNZA MFONdNZUN MEUT",
    "dPA LEERAEWAdPAAMdPAARAEdPAMSHAEdPASHAEdPETdPON MFON PIPAEMBAfPIPAEMGBIEEePA NJI PIPAEMBA",
    "gPIPAEMGBIEEdPUPdROMdSEUNYAMdSHINDA PA NJIdSHIRAEdSHOQ NSHUT YUMdSHUENSHUETdSHUMdSISAdSONJAM",
    "dSOQdSOTdSUUdTEUAENdTEUTEUWENdTITA MFONdTU MAEMBAdTUAEPdU YUQ NAEdUNKNOWNdVEEcPHASE-B FEE",
    "dFEUXdGHEUGHENdGHEUGHEUAEMdKAMdKEUAEMdKEUPUQdKEUYEUXdKIEEMdKIQdLAANAEdLAM NSHUT NYAMdLET",
    "dLOM NTEUMdMAeNJEUAENAeNJUQAdMBA MAELEEdMBAARAEdMBEURIdMBIT MBAAKETdMBUOQdMEUQdMEUT NGGEET",
    "dMFIYAQdMFON TEUAEQdMONTIEENdNDU NJAAdNGGAAMdNGGEU MBUdNGGUOQeLARGEdNGKINDI MVOPdNGOMdNSEN",
    "dNSHUETdNTIEE SHEUOQdNYAEMAEdNYI NTEUMdPARUMdPEESHIdPITdPUNGAAMdSAKEUAEdSET TUdSHET NJAQ",
    "dSHEUAEQTUdSIEEdSUEdTAAMdTU MAEMGBIEEeNSIEEdVEUMdWUAETdYAFU LEERAEWAdYEURAEcPHASE-C BUNGdFUE",
    "dGBAYIdGHAPdGHARAEdKAAdKEN FATIGUEeLAWdKETdKEUKAQdKEUMdKEUSEUXdKEUSHEUAEPdKPARAQ",
    "dKUOP NKAARAEdKUTdLAMdLAPdLIQdLUdMA KEUAERIeNSIEEdMAEMBAdMAESIdMBAA CABBAGE-TREEePICKET",
    "dMBANYIdMBEEKEETdMBERAEdMBEUMdMBEUXdMBIdMBIRIEENdMBITdMBUAEMdMBUEdMGBASAQdMIEEdMUAEdNANSANAQ",
    "dNAQdNDAMdNDAPdNDEUAEREEdNDEUTdNDIDAdNDOMBUdNGAQdNGGENdNGGUdNGGUAEN NYAMdNGGUEETdNGGUM",
    "dNGGUONdNGKAQdNGKUE MAEMBAdNGOMdNJAEMdNJAMdNJEEEEdNJEUXdNJUEQdNSAdNSEUAENdNSHAQdNSOMdNSUN",
    "dNSUOT NGOMdNTAAdNTENdNTEUNGBAdNTU MBITdNYIR MKPARAQ MEUNdNZAdNZEUMdPENdPINdPIRIEENdRU",
    "dSETFONdSEUXdSHIQdSHUEQdSUAETdTAASHAEdTETdTEUTEUXdTITA YUEdTITUAEPdVEUAEPENdVEUXdWANGKUOQ",
    "dWUPdYAAdYEUQdYU MUOMAEdYUMdYUWOQcPHASE-D FAAdFEUFEUAETdGHAAdGHEUAEdKETdKEUAETMEUNdKEUM",
    "dKEUOT MBUAEdKEUPdKUdKUNdKUOMdKUQdKWAETdKYEEdLEEEEdLETdLEUAEPdLEUMdLIEEdLOQdLUMdMdMAENJET",
    "dMALEERIdMBAAeSEVENdMBUOdMEEEEdMEUNdMEUTdMFEUAEdMFEUTdMFIEEdMFOdMFONdMGBEUNdMGBIEEdMGBOFUM",
    "dMONIdMUdMVOPdNDAMdNDEEdNDEUXdNDONdNGGAAMdNGGAAMAEdNGGAPdNGGEUXdNGGUOMdNGGWAENdNGKAP",
    "dNGKEUAEQdNGKEURIdNGKIEEdNGKUNdNGKYEEdNIdNJAPdNJEUAEMdNJEUTdNJIdNJIEEdNJUEQdNSHEEdNSHUT",
    "dNSIEEPdNSIEETdNSUMdNTEEdNTEUMdNTUUdNUdNYAMdNYETdNYIdNYUEdPAPdPEEdPEUTAEdPIPdPUQdPUUTdRAEM",
    "dREN MUCHeOLDdRIIdSAPdSAQdSEUAEQdSHEEdSHEUAEdSHEUXdSHIIdSHOQdSHUdSOTdSUAEdSUEdSUUdTAEdTEEEE",
    "dTEUAENdTEUNdTEUTdTIdTOQdTUdTUOTdWAPdWUAENdYAEMMAEdYENdYUOMdYUOPdYUWOQcPHASE-E AdFAdFAQdFEE",
    "dFOMdFU CALLeIeREMEDYdFUEdFUETdGBETdGBEUXdGHAAMAEdGHETdGHEUAEdGHEUNdGHEUXdGHOMdIdKETdKEUAE",
    "dKEUXdKIdKOdKPEUXdKUETdKUOPdKUTdLAAMdLAPdLAQdLEUAEMdLOMdLOONdLOOTdLOQdLUdMAdMAEdMAEMdMAPdMAQ",
    "dMBEEdMBEUMdMENdMFEUQdMGBAdMGBENdMIdMIEEdMONdMUAEdMVIdNAdNAEdNDAA MY HOUSEeSOFTNESSdNDAP",
    "dNDIAQdNDIQdNDUNdNGAdNGEUREUTdNGGEEEEdNGGEUAEdNGGEUAETdNGGUAESHAE NYAMdNGGUPdNGGURAEdNGKA",
    "dNGKAAMIdNGKEUAEMdNGKEUXdNGKUMdNGKUPdNGOPdNGOQdNGUAEdNGUAETdNJAEMLIdNJEEeEPOCHdNJEUXdNKOM",
    "dNSHIEEdNSHUEdNSHUOPdNTAPdNTUMdNYI BETWEENeCLEAVERdNZAQdNZUQdOdPA PEOPLEePLURALdPAAdPAAM",
    "dPEEMdPEUTdPEUXdPIdPIEEQdPIETdPOdPOONdPUdPUAEdPUAQdPUEdPUMdRAEdRAQdREUXdRIMGBAdSAAdSEEdSET",
    "dSHEUAEQdSHIQdSHOdSHOQdSOMdSUAENdTAAdTAAQdTAEN NTEUMdTAMdTAQdTENdTEUdTEUAEQdTOOdTOONdTOQ",
    "dTUAEdTUMdTUMAEdVEEdVEUAEdVOMdWEUXdWUEdWUOdYAPdYEUAEdYEUAETdYEUMdYEUXdYIEEdYITdYOQ COVER",
    "eSWIMMINGdYUAENdYUEQdYUNdYUQcPHASE-F EEdFOMdKAdKENdKETdKOdKPAdKUdKYEEdLAdLIdLOQdMdMAdMBAA",
    "dMBENdMEEEEdMOdNDAAdNGGAdNGKWAENdNIdNJAEMdNJUAEdNSHAdNTEEdNUdNUAEdNYIdPEEdPEUXdPUAEdREEdREN",
    "dREUXdRIEEdRIIdRUdSAMBAdSEUXdSHIIdSHOdSHUdSIdSUUdTAAdTAEdTETdUdVUEQdWAdWUEdYAdYOQcPIcPUAE",
    "cPUEcRAEcREEcRENcREUXcRIEEcRIIcRUcSAMBAcSEUXcSHEUXcSHIIcSHOcSHUcSIcSUUcTAAcTAEcTENcTETcTIcU",
    "cWAcWUEcYAcYOQcYUQbNJAEMLIbQUESTION MARKbSEMICOLONaBANANAaBANJOaBANK",
    "aBANKNOTE WITH DOLLAR SIGNcEURO SIGNcPOUND SIGNcYEN SIGNaBAR CHARTbOF SOAPaBARBER POLE",
    "aBASEBALLaBASKETaBASKETBALL AND HOOPaBASSA VAH COMBINING HIGH TONEdHIGH-LOW TONEdLOW TONE",
    "dLOW-MID TONEdMID TONEcFULL STOPcLETTER AdBAdCEdDHIIdDOdEdEEdENNIdFAdGAHdGBUdHWAHdIdJOdKA",
    "dKPAHdMBEdOdOOdPAdSEdTOdUdUWUdVUdWAdWADDAdYEINdYIEdZOaBATaBATAK CONSONANT SIGN HdNGbLETTER A",
    "cBAcCAcDAcGAcHAcIcJAcKARO BAcLAcMAcMANDAILING HAdNAdSAcMBAcNAcNDAcNGAcNORTHERN TAcNYAcPA",
    "cPAKPAK WAcRAcSAcSIMALUNGUN AdGAdHAdLAdMAdPAdRAdSAdWAdYAcSOUTHERN TAcUcWAcYAbPANGOLAT",
    "bPANONGONANbSIGN TOMPIbSYMBOL BINDU JUDULdNA METEKdPANGOLATdPINARBORASbVOWEL SIGN EdEEdI",
    "dKARO IeOdOdPAKPAK EdUeFOR SIMALUNGUN SAaBATHaBATHTUBaBATTERYaBEACH WITH UMBRELLA",
    "aBEAMED ASCENDING MUSICAL NOTESbDESCENDING MUSICAL NOTESbEIGHTH NOTESbSIXTEENTH NOTESaBEANS",
    "aBEAR FACEaBEARDED PERSONaBEATING HEARTaBEAVERaBECAUSEaBEDaBEER MUGaBEETLEaBELaBELLbPEPPER",
    "bSYMBOLbWITH CANCELLATION STROKEaBELLHOP BELLaBENGALI ABBREVIATION SIGNbANJIbAU LENGTH MARK",
    "bCURRENCY DENOMINATOR SIXTEENcNUMERATOR FOURdONEeLESS THAN THE DENOMINATORdTHREEdTWO",
    "bDIGIT EIGHTcFIVEcFOURcNINEcONEcSEVENcSIXcTHREEcTWOcZERObGANDA MARKbISSHARbLETTER AcAAcAIcAU",
    "cBAcBHAcCAcCHAcDAcDDAcDDHAcDHAcEcGAcGHAcHAcIcIIcJAcJHAcKAcKHAcKHANDA TAcLAcMAcNAcNGAcNNAcNYA",
    "cOcPAcPHAcRAdWITH LOWER DIAGONALeMIDDLE DIAGONALcRHAcRRAcSAcSHAcSSAcTAcTHAcTTAcTTHAcUcUU",
    "cVEDIC ANUSVARAcVOCALIC LdLLdRdRRcYAcYYAbRUPEE MARKcSIGNbSANDHI MARKbSIGN ANUSVARAcAVAGRAHA",
    "cCANDRABINDUcNUKTAcVIRAMAcVISARGAbVOWEL SIGN AAdAIdAUdEdIdIIdOdUdUUdVOCALIC LeLLeReRR",
    "aBENT ARROW POINTING DOWNWARDS THEN NORTH EASTaBENTO BOXaBENZENE RINGcWITH CIRCLEaBET SYMBOL",
    "aBETWEENaBEVERAGE BOXaBHAIKSUKI DANDAbDIGIT EIGHTcFIVEcFOURcNINEcONEcSEVENcSIXcTHREEcTWO",
    "cZERObDOUBLE DANDAbGAP FILLER-1cFILLER-2bHUNDREDS UNIT MARKbLETTER AcAAcAIcAUcBAcBHAcCAcCHA",
    "cDAcDDAcDDHAcDHAcEcGAcGHAcHAcIcIIcJAcJHAcKAcKHAcLAcMAcNAcNGAcNNAcNYAcOcPAcPHAcRAcSAcSHAcSSA",
    "cTAcTHAcTTAcTTHAcUcUUcVAcVOCALIC LdRdRRcYAbNUMBER EIGHTcEIGHTYcFIFTYcFIVEcFORTYcFOURcNINE",
    "cNINETYcONEcSEVENcSEVENTYcSIXcSIXTYcTENcTHIRTYcTHREEcTWENTYcTWObSIGN ANUSVARAcAVAGRAHA",
    "cCANDRABINDUcVIRAMAcVISARGAbVOWEL SIGN AAdAIdAUdEdIdIIdOdUdUUdVOCALIC LeReRRbWORD SEPARATOR",
    "aBICYCLEaBICYCLISTaBIG REVERSE SOLIDUSbSOLIDUSaBIKINIaBILLED CAPaBILLIARDSaBIOHAZARD SIGN",
    "aBIRDaBIRTHDAY CAKEaBISONaBITCOIN SIGNaBITING LIPaBLACK BOWTIEbCENTRE WHITE STAR",
    "bCHESS BISHOPdROTATED NINETY DEGREESeTWO HUNDRED SEVENTY DEGREEScEQUIHOPPER",
    "dROTATED NINETY DEGREEScKINGdROTATED NINETY DEGREESeTWO HUNDRED SEVENTY DEGREEScKNIGHT",
    "dROTATED FORTY-FIVE DEGREESeNINETY DEGREESeONE HUNDRED THIRTY-FIVE DEGREES",
    "eTHREE HUNDRED FIFTEEN DEGREESeTWO HUNDRED SEVENTY DEGREESgTWENTY-FIVE DEGREEScKNIGHT-BISHOP",
    "cKNIGHT-QUEENcKNIGHT-ROOKcPAWNdROTATED NINETY DEGREESeTWO HUNDRED SEVENTY DEGREEScQUEEN",
    "dROTATED NINETY DEGREESeTWO HUNDRED SEVENTY DEGREEScROOKdROTATED NINETY DEGREES",
    "eTWO HUNDRED SEVENTY DEGREEScTURNED BISHOPdKINGdKNIGHTdPAWNdQUEENdROOKbCIRCLEcFOR RECORD",
    "cWITH DOWN ARROWdTWO WHITE DOTSdWHITE DOT RIGHTbCLUB SUITbCROSS ON SHIELD",
    "bCURVED DOWNWARDS AND LEFTWARDS ARROWeRIGHTWARDS ARROWcLEFTWARDS AND DOWNWARDS ARROW",
    "eUPWARDS ARROWcRIGHTWARDS AND DOWNWARDS ARROWeUPWARDS ARROWcUPWARDS AND LEFTWARDS ARROW",
    "eRIGHTWARDS ARROWbDIAMONDcCENTREDcMINUS WHITE XcON CROSScSUITcWITH DOWN ARROW",
    "bDOWN POINTING BACKHAND INDEXbDOWN-POINTING DOUBLE TRIANGLEcISOSCELES RIGHT TRIANGLE",
    "cSMALL TRIANGLEcTRIANGLEbDOWNWARDS EQUILATERAL ARROWHEADbDRAUGHTS KINGcMANbDROPLETbFLAG",
    "bFLORETTEbFOLDERbFOUR POINTED STARbHARD SHELL FLOPPY DISKbHEARTcSUITbHEXAGON",
    "bHORIZONTAL ELLIPSEbHOURGLASSbLARGE CIRCLEcSQUAREbLEFT LANE MERGEcPOINTING BACKHAND INDEX",
    "dINDEXbLEFT-POINTING DOUBLE TRIANGLEeWITH VERTICAL BARcISOSCELES RIGHT TRIANGLEcPOINTER",
    "cSMALL TRIANGLEcTRIANGLEbLEFTWARDS BULLETcEQUILATERAL ARROWHEADbLOWER LEFT TRIANGLE",
    "cRIGHT TRIANGLEbLOZENGEbMEDIUM DIAMONDcDOWN-POINTING TRIANGLEeCENTREDcLEFT-POINTING TRIANGLE",
    "eCENTREDcLOZENGEcRIGHT-POINTING TRIANGLEeCENTREDcSMALL DIAMONDdLOZENGEdSQUAREcSQUARE",
    "cUP-POINTING TRIANGLEeCENTREDbMOON LILITHbNIBbOCTAGONbPARALLELOGRAMbPENNANTbPENTAGONbPUSHPIN",
    "bQUESTION MARK ORNAMENTbRECTANGLEbRIGHT POINTING BACKHAND INDEXdINDEX",
    "bRIGHT-POINTING DOUBLE TRIANGLEeWITH VERTICAL BARcISOSCELES RIGHT TRIANGLEcPENTAGONcPOINTER",
    "cSMALL TRIANGLEcTRIANGLEdWITH DOUBLE VERTICAL BARbRIGHTWARDS ARROWcARROWHEADcBULLET",
    "cEQUILATERAL ARROWHEADbROSETTEbSAFETY SCISSORSbSCISSORSbSHOGI PIECEbSKULL AND CROSSBONES",
    "bSLIGHTLY SMALL CIRCLEdSQUAREbSMALL DIAMONDcLOZENGEcSQUAREcSTARbSMILING FACEbSNOWMAN",
    "bSPADE SUITbSQUAREcBUTTONcCENTREDcFOR STOPbSTARbSUN WITH RAYSbTELEPHONEbTINY DIAMONDcLOZENGE",
    "cSQUAREbTOUCHTONE TELEPHONEbTRUCKbTWO-WAY LEFT WAY TRAFFICbUNIVERSAL RECYCLING SYMBOL",
    "bUP POINTING BACKHAND INDEXbUP-POINTING DOUBLE TRIANGLEcISOSCELES RIGHT TRIANGLE",
    "cSMALL TRIANGLEcTRIANGLEbUPPER LEFT TRIANGLEcRIGHT TRIANGLEbUPWARDS EQUILATERAL ARROWHEAD",
    "bVERTICAL ELLIPSEcRECTANGLEbVERY SMALL DIAMONDdLOZENGEdSQUARE",
    "aBLACK-FEATHERED NORTH EAST ARROWbRIGHTWARDS ARROWbSOUTH EAST ARROWaBLACK-LETTER CAPITAL CcH",
    "cIcRcZaBLANK SYMBOLaBLOCK SEXTANT-1bSEXTANT-12bSEXTANT-123bSEXTANT-1234bSEXTANT-12345",
    "bSEXTANT-12346bSEXTANT-1235bSEXTANT-12356bSEXTANT-1236bSEXTANT-124bSEXTANT-1245",
    "bSEXTANT-12456bSEXTANT-1246bSEXTANT-125bSEXTANT-1256bSEXTANT-126bSEXTANT-13bSEXTANT-134",
    "bSEXTANT-1345bSEXTANT-13456bSEXTANT-1346bSEXTANT-1356bSEXTANT-136bSEXTANT-14bSEXTANT-145",
    "bSEXTANT-1456bSEXTANT-146bSEXTANT-15bSEXTANT-156bSEXTANT-16bSEXTANT-2bSEXTANT-23bSEXTANT-234",
    "bSEXTANT-2345bSEXTANT-23456bSEXTANT-2346bSEXTANT-235bSEXTANT-2356bSEXTANT-236bSEXTANT-24",
    "bSEXTANT-245bSEXTANT-2456bSEXTANT-25bSEXTANT-256bSEXTANT-26bSEXTANT-3bSEXTANT-34bSEXTANT-345",
    "bSEXTANT-3456bSEXTANT-346bSEXTANT-35bSEXTANT-356bSEXTANT-36bSEXTANT-4bSEXTANT-45bSEXTANT-456",
    "bSEXTANT-46bSEXTANT-5bSEXTANT-56bSEXTANT-6aBLOSSOMaBLOWFISHaBLUE BOOKbHEARTaBLUEBERRIESaBOAR",
    "aBOLD EIGHT SPOKED ASTERISKbFIVE SPOKED ASTERISKbGREEK CROSSbSALTIREbSIX SPOKED ASTERISK",
    "bWHITE CIRCLEcSQUAREaBOMaBOMBaBONEaBOOKaBOOKMARKbTABSaBOOKSaBOOMERANG",
    "aBOPOMOFO FINAL LETTER GdHdKdPdTbLETTER AcAHcAIcAINNcAMcANcANGcANNcAUcAUNNcBcBUcCcCHcDcEcEE",
    "cEHcEIcENcENGcENNcERcFcGcGHcGNcGUcGWcHcIcIHcIMcINNcINNNcIRcIUcJcJIcKcKWcLcLHcMcNcNGcNGGcNNcO",
    "dWITH DOT ABOVEcOEcOMcONGcONNcOOcOUcPcQcRcScSHcTcUcUNNcVcXcZcZHcZIcZY",
    "aBOTTLE WITH POPPING CORKaBOTTOM ARC ANTICLOCKWISE ARROWbCURLY BRACKETbHALF BLACK CIRCLE",
    "cINTEGRALcLEFT PARENTHESIScRIGHT PARENTHESISbLEFT CORNERcCROPcHALF BRACKETbPARENTHESIS",
    "bRIGHT CORNERcCROPcHALF BRACKETbSQUARE BRACKETdOVER TOP SQUARE BRACKET",
    "bTORTOISE SHELL BRACKETaBOUQUETbOF FLOWERSaBOW AND ARROWaBOWL OF HYGIEIAbWITH SPOONaBOWLING",
    "aBOWTIEbWITH LEFT HALF BLACKcRIGHT HALF BLACKaBOX DRAWINGS DOUBLE DOWN AND HORIZONTALfLEFT",
    "fRIGHTdHORIZONTALdUP AND HORIZONTALfLEFTfRIGHTdVERTICALeAND HORIZONTALfLEFTfRIGHT",
    "cDOWN DOUBLE AND HORIZONTAL SINGLEfLEFT SINGLEfRIGHT SINGLEdHEAVY AND HORIZONTAL LIGHT",
    "fLEFT LIGHTgUP LIGHTfRIGHT LIGHTgUP LIGHTfUP HORIZONTAL LIGHTdLIGHT AND HORIZONTAL HEAVY",
    "fLEFT HEAVYgUP HEAVYfRIGHT HEAVYgUP HEAVYfUP HORIZONTAL HEAVYdSINGLE AND HORIZONTAL DOUBLE",
    "fLEFT DOUBLEfRIGHT DOUBLEcHEAVY DOUBLE DASH HORIZONTALfVERTICALdDOWNeAND HORIZONTALfLEFT",
    "fRIGHTdHORIZONTALdLEFTeAND LIGHT RIGHTdQUADRUPLE DASH HORIZONTALfVERTICALdRIGHT",
    "dTRIPLE DASH HORIZONTALfVERTICALdUPeAND HORIZONTALfLEFTfLIGHT DOWNfRIGHTdVERTICAL",
    "eAND HORIZONTALfLEFTfRIGHTcLEFT DOWN HEAVY AND RIGHT UP LIGHTdHEAVY AND RIGHT DOWN LIGHT",
    "gUP LIGHTgVERTICAL LIGHTdLIGHT AND RIGHT DOWN HEAVYgUP HEAVYgVERTICAL HEAVY",
    "dUP HEAVY AND RIGHT DOWN LIGHTcLIGHT ARC DOWN AND LEFTgRIGHTeUP AND LEFTgRIGHT",
    "dDIAGONAL CROSSeDIAMONDeMIDDLE LEFT TO LOWER CENTREjTO MIDDLE RIGHT",
    "hUPPER CENTRE TO MIDDLE RIGHTmTO LOWER CENTREfRIGHT TO LOWER CENTRE",
    "hUPPER CENTRE TO MIDDLE LEFT TO LOWER CENTREeUPPER CENTRE TO MIDDLE LEFT",
    "jAND MIDDLE RIGHT TO LOWER CENTREjTO LOWER CENTREmTO MIDDLE RIGHTiRIGHT",
    "jAND MIDDLE LEFT TO LOWER CENTREjTO LOWER CENTREmTO MIDDLE LEFTfLEFT TO LOWER RIGHT",
    "fRIGHT TO LOWER LEFTdDOUBLE DASH HORIZONTALfVERTICALdDOWNeAND HORIZONTALfLEFTfRIGHT",
    "dHORIZONTALeWITH VERTICAL STROKEdLEFTeAND HEAVY RIGHTdQUADRUPLE DASH HORIZONTALfVERTICAL",
    "dRIGHTdTRIPLE DASH HORIZONTALfVERTICALdUPeAND HEAVY DOWNfHORIZONTALfLEFTfRIGHTdVERTICAL",
    "eAND HORIZONTALfLEFTfRIGHTcRIGHT DOWN HEAVY AND LEFT UP LIGHTdHEAVY AND LEFT DOWN LIGHT",
    "gUP LIGHTgVERTICAL LIGHTdLIGHT AND LEFT DOWN HEAVYgUP HEAVYgVERTICAL HEAVY",
    "dUP HEAVY AND LEFT DOWN LIGHTcUP DOUBLE AND HORIZONTAL SINGLEfLEFT SINGLEfRIGHT SINGLE",
    "dHEAVY AND DOWN HORIZONTAL LIGHTfHORIZONTAL LIGHTfLEFT DOWN LIGHTgLIGHTfRIGHT DOWN LIGHT",
    "gLIGHTdLIGHT AND DOWN HORIZONTAL HEAVYfHORIZONTAL HEAVYfLEFT DOWN HEAVYgHEAVY",
    "fRIGHT DOWN HEAVYgHEAVYdSINGLE AND HORIZONTAL DOUBLEfLEFT DOUBLEfRIGHT DOUBLE",
    "cVERTICAL DOUBLE AND HORIZONTAL SINGLEfLEFT SINGLEfRIGHT SINGLEdHEAVY AND HORIZONTAL LIGHT",
    "fLEFT LIGHTfRIGHT LIGHTdLIGHT AND HORIZONTAL HEAVYfLEFT HEAVYfRIGHT HEAVY",
    "dSINGLE AND HORIZONTAL DOUBLEfLEFT DOUBLEfRIGHT DOUBLEaBOXING GLOVEaBOYaBOYS SYMBOLaBPH",
    "aBRAHMI DANDAbDIGIT EIGHTcFIVEcFOURcNINEcONEcSEVENcSIXcTHREEcTWOcZERObDOUBLE DANDAbLETTER A",
    "cAAcAIcAUcBAcBHAcCAcCHAcDAcDDAcDDHAcDHAcEcGAcGHAcHAcIcIIcJAcJHAcKAcKHAcLAcLLAcMAcNAcNGAcNNA",
    "cNYAcOcOLD TAMIL LLAeLLLAeNNNAeRRAeSHORT EfOcPAcPHAcRAcSAcSHAcSSAcTAcTHAcTTAcTTHAcUcUUcVA",
    "cVOCALIC LdLLdRdRRcYAbNUMBER EIGHTcEIGHTYcFIFTYcFIVEcFORTYcFOURcJOINERcNINEcNINETYcONE",
    "dHUNDREDdTHOUSANDcSEVENcSEVENTYcSIXcSIXTYcTENcTHIRTYcTHREEcTWENTYcTWO",
    "bPUNCTUATION CRESCENT BARcDOTcDOUBLE DOTcLINEcLOTUSbSIGN ANUSVARAcCANDRABINDUcJIHVAMULIYA",
    "cOLD TAMIL VIRAMAcUPADHMANIYAcVISARGAbVIRAMAbVOWEL SIGN AAdAIdAUdBHATTIPROLU AAdEdIdIIdO",
    "dOLD TAMIL SHORT EgOdUdUUdVOCALIC LeLLeReRRaBRAILLE PATTERN BLANKaBRAINaBREAD",
    "aBREAK PERMITTED HEREaBREAST-FEEDINGaBREVEaBRICKaBRIDE WITH VEILaBRIDGE AT NIGHTaBRIEFCASE",
    "aBRIEFSaBROCCOLIaBROKEN BARbCIRCLE WITH NORTHWEST ARROWbHEARTaBROOMaBROWN HEARTaBS",
    "aBUBBLE TEAaBUBBLESaBUCKETaBUGaBUGINESE END OF SECTIONbLETTER AcBAcCAcDAcGAcHAcJAcKAcLAcMA",
    "cMPAcNAcNGAcNGKAcNRAcNYAcNYCAcPAcRAcSAcTAcVAcYAbPALLAWAbVOWEL SIGN AEdEdIdOdUaBUHID LETTER A",
    "cBAcDAcGAcHAcIcKAcLAcMAcNAcNGAcPAcRAcSAcTAcUcWAcYAbVOWEL SIGN IdUaBUILDING CONSTRUCTION",
    "aBULLETbOPERATORaBULLHORNbWITH SOUND WAVESaBULLSEYEaBURRITOaBUSbSTOPaBUST IN SILHOUETTE",
    "aBUSTS IN SILHOUETTEaBUTTERaBUTTERFLYaBYTE ORDER MARKaBYZANTINE MUSICAL SYMBOL AGOGI ARGI",
    "eARGOTERIeGORGIeGORGOTERIeMESIeMETRIAePOLI ARGIfGORGIdANATRICHISMAdANTIKENOKYLISMA",
    "dANTIKENOMAdAPESO EKFONITIKONeEXO NEOdAPLIdAPODERMA ARCHAIONeNEOdAPOSTROFOI SYNDESMOS NEO",
    "eTELOUS ICHIMATOSdAPOSTROFOSeDIPLIeNEOdAPOTHEMAdARGONdARGOSYNTHETONdARKTIKO DIeGAeKEeNIePA",
    "eVOUeZOdCHAMILIdCHAMILONdCHOREVMA ARCHAIONeNEOdCHROA KLITONeSPATHIeZYGOSdDASEIAdDIARGON",
    "dDIASTOLI APLI MEGALIfMIKRIeDIPLIeTHESEOSdDIESIS APLI DYO DODEKATAeDIGRAMMOS EX DODEKATA",
    "eMONOGRAMMOS TESSERA DODEKATAeTETARTIMORIONeTRIGRAMMOS OKTO DODEKATAeTRITIMORION",
    "dDIFTOGGOS OUdDIGORGONePARESTIGMENON ARISTERA ANOgKATOfDEXIAdDIGRAMMA GGdDIPLIeARCHAIONdDYO",
    "dEKSTREPTONdELAFRONdENARXIS KAI FTHORA VOUdENDOFONONdEPEGERMAdETERON ARGOSYNTHETON",
    "ePARAKALESMAdEXO EKFONITIKONdFANEROSIS DIFONIASeMONOFONIASeTETRAFONIAS",
    "dFHTORA SKLIRON CHROMA VASISdFTHORA ARCHAIONfDEYTEROU ICHOUeDIATONIKI DIfKEfNANAfNI ANOgKATO",
    "fPAfZOeENARMONIOS ANTIFONIAeI YFESIS TETARTIMORIONeMALAKON CHROMA DIFONIASgMONOFONIAS",
    "eNAOS ICHOSeNENANOeSKLIRON CHROMA SYNAFIgVASISfDIATONON DIdGENIKI DIESISeYFESIS",
    "dGORGON ARCHAIONeNEO ANOfKATOePARESTIGMENON ARISTERAfDEXIAdGORGOSYNTHETON",
    "dGORTHMIKON N APLOUNfDIPLOUNdGRONTHISMATAdICHADINdIMIDIARGONdIMIFONONdIMIFTHORAdIMIFTHORON",
    "dISAKIA TELOUS ICHIMATOSdISON ARCHAIONeNEOdKATAVA TROMIKONdKATAVASMAdKATHISTI",
    "dKENTIMA ARCHAIONeNEO ANOfKATOfMESOdKENTIMATAeARCHAIONeNEO ANOfKATOfMESOdKLASMAeANOeKATO",
    "dKONTEVMAeALLOdKORONISdKOUFISMAdKRATIMA ALLOeARCHAIONeNEOdKRATIMATAdKRATIMOKOUFISMA",
    "dKRATIMOYPORROONdKREMASTIdKYLISMAdLEIMMA DYO CHRONONeENOS CHRONOUeIMISEOS CHRONOU",
    "eTESSARON CHRONONeTRION CHRONONdLEMOIdLYGISMAdMARTYRIA ALLI DEYTEROS ICHOSfPROTOS ICHOS",
    "eDEYTEROS ICHOSeLEGETOS ICHOSePLAGIOS ICHOSfTETARTOS ICHOSePROTOS ICHOSePROTOVARYS ICHOS",
    "eTETARTOS ICHOSfLEGETOS ICHOSeTRIFONIASeTRITOS ICHOSeVARYS ICHOSdMIKRON ISONdNANA",
    "dOLIGON ARCHAIONeNEOdOMALONdOXEIA DIPLIeEKFONITIKONeNEOdOXEIAI ARCHAIONdOYRANISMA ARCHAION",
    "eNEOdPARAKALESMA ARCHAIONeNEOdPARAKLITIKIeARCHAIONeNEOdPARICHONdPELASTONeNEOdPERISPOMENI",
    "dPETASMAdPETASTIdPETASTOKOUFISMAdPIASMA ARCHAIONeNEOdPSIFISTOLYGISMAdPSIFISTONeNEO",
    "dPSIFISTOPARAKALESMAdPSIFISTOSYNAGMAdPSILIdPSILONdRAPISMAdREVMAdSAXIMATAdSEISMAeNEO",
    "dSIMANSIS ARSEOSfDISIMOUfTETRASIMOUfTRISIMOUeTHESEOSfDISIMOUfTETRASIMOUfTRISIMOUdSTAVROS",
    "eAPODEXIAdSTIGMAdSTRAGGISMATAdSYNAGMA ARCHAIONeMETA STAVROUeNEOdSYNEVMAdSYRMAdSYRMATIKI",
    "dTELEIAdTESSERAdTETRAPLIdTHEMAeAPLOUNdTHEMATISMOS ESOeEXOdTHES KAI APOTHESdTHITAdTINAGMA",
    "dTRIAdTRIGORGONdTRIPLIdTROMIKOLYGISMAdTROMIKON ALLOeARCHAIONeNEOdTROMIKOPARAKALESMA",
    "dTROMIKOPSIFISTONdTROMIKOSYNAGMAdVAREIA DIPLIeEKFONITIKONeNEOdVAREIAI ARCHAIONdVATHY",
    "dXIRON KLASMAdYFEN ANOeKATOdYFESIS APLI DYO DODEKATAeDIGRAMMOS EX DODEKATA",
    "eMONOGRAMMOS TESSERA DODEKATAeTRIGRAMMOS OKTO DODEKATAeTRITIMORIONdYPOKRISISeDIPLIdYPORROI",
    "dYPSILI"]

end Jet.Text.CharacterName
