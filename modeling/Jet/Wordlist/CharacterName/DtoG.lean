/-!
# Names of characters: D to G

The names that begin with the letters D to G, in order.  A small letter stands in front of
each name and says how many words the name shares with the one before, `a` for none; only the other
words are given.
-/

namespace Jet.Text.CharacterName

/-- The names that begin with the letters D to G. -/
def namesDtoG : List String :=
  ["aDAGGERbKNIFEbWITH LEFT GUARDcRIGHT GUARDaDALET SYMBOLaDANCERaDANGOaDARK SHADEbSUNGLASSES",
    "aDASH SYMBOLbWITH LEFT UPTURNaDASHED LOW LINEbOVERLINEbTRIANGLE-HEADED RIGHTWARDS ARROW",
    "aDATA LINK ESCAPEaDC1aDC2aDC3aDC4aDCSaDEAF PERSONaDECIDUOUS TREEaDECIMAL EXPONENT SYMBOL",
    "bSEPARATOR KEY SYMBOLaDECREASE FONT SIZE SYMBOLaDEERaDEGREE CELSIUSbFAHRENHEITbSIGNaDEL",
    "aDELETEaDELIVERY TRUCKaDELTA EQUAL TOaDENTISTRY SYMBOL LIGHT DOWN AND HORIZONTALgWITH CIRCLE",
    "hTRIANGLEhWAVEdUP AND HORIZONTALgWITH CIRCLEhTRIANGLEhWAVEdVERTICAL AND BOTTOM LEFTgRIGHT",
    "fTOP LEFTgRIGHTfWAVEeWITH CIRCLEfTRIANGLEaDEPARTMENT STOREaDERELICT HOUSE BUILDING",
    "aDESCENDING NODEaDESERET CAPITAL LETTER AYdBEEdCHEEdDEEdEFdELdEMdENdENGdERdESdESHdETHdEWdGAY",
    "dHdJEEdKAYdLONG AeAHeEeIeOeOOdOIdOWdPEEdSHORT AeAHeEeIeOeOOdTEEdTHEEdVEEdWUdYEEdZEEdZHEE",
    "bSMALL LETTER AYdBEEdCHEEdDEEdEFdELdEMdENdENGdERdESdESHdETHdEWdGAYdHdJEEdKAYdLONG AeAHeEeIeO",
    "eOOdOIdOWdPEEdSHORT AeAHeEeIeOeOOdTEEdTHEEdVEEdWUdYEEdZEEdZHEEaDESERTbISLAND",
    "aDESKTOP COMPUTERbWINDOWaDEVANAGARI ABBREVIATION SIGNbACUTE ACCENTbCARETbDANDAbDIGIT EIGHT",
    "cFIVEcFOURcNINEcONEcSEVENcSIXcTHREEcTWOcZERObDOUBLE DANDAbGAP FILLERbGRAVE ACCENTbHEADSTROKE",
    "bJAIN OMbLETTER AcAAcAIcAUcAWcAYcBAcBBAcBHAcCAcCANDRA AdEdOcCHAcDAcDDAcDDDAcDDDHAcDDHAcDHAcE",
    "cFAcGAcGGAcGHAcGHHAcGLOTTAL STOPcHAcHEAVY YAcIcIIcJAcJHAcJJAcKAcKHAcKHHAcLAcLLAcLLLAcMA",
    "cMARWARI DDAcNAcNGAcNNAcNNNAcNYAcOcOEcOOEcPAcPHAcQAcRAcRHAcRRAcSAcSHAcSHORT AdEdOcSSAcTAcTHA",
    "cTTAcTTHAcUcUEcUUcUUEcVAcVOCALIC LdLLdRdRRcYAcYYAcZAcZHAbOMbSIGN ANUSVARAcAVAGRAHA",
    "cCANDRABINDUdAVAGRAHAdTHREEdTWOdVIRAMAcDOUBLE CANDRABINDU VIRAMAcHIGH SPACING DOT",
    "cINVERTED CANDRABINDUcNUKTAcPUSHPIKAcSIDDHAMcSPACING CANDRABINDUcVIRAMAcVISARGA",
    "bSTRESS SIGN ANUDATTAdUDATTAbVOWEL SIGN AAdAIdAUdAWdAYdCANDRA EeLONG EeOdEdIdIIdOdOEdOOE",
    "dPRISHTHAMATRA EdSHORT EeOdUdUEdUUdUUEdVOCALIC LeLLeReRRaDEVICE CONTROL FOURcONEcSTRING",
    "cTHREEcTWOaDIAERESISaDIAMETER SIGNaDIAMOND OPERATORbSHAPE WITH A DOT INSIDEbTARGET",
    "bWITH BOTTOM HALF BLACKcLEFT HALF BLACKcRIGHT HALF BLACKcTOP HALF BLACKaDIE FACE-1bFACE-2",
    "bFACE-3bFACE-4bFACE-5bFACE-6aDIESEL LOCOMOTIVEaDIFFERENCE BETWEENaDIGIT EIGHTcCOMMA",
    "cFULL STOPbFIVEcCOMMAcFULL STOPbFOURcCOMMAcFULL STOPbNINEcCOMMAcFULL STOPbONEcCOMMA",
    "cFULL STOPbSEVENcCOMMAcFULL STOPbSIXcCOMMAcFULL STOPbTHREEcCOMMAcFULL STOPbTWOcCOMMA",
    "cFULL STOPbZEROcCOMMAcFULL STOPaDIGRAM FOR EARTHcEARTHLY HEAVENdHUMANcGREATER YANGdYIN",
    "cHEAVENLY EARTHcHUMAN EARTHcLESSER YANGdYINaDIMENSION ORIGIN",
    "aDINGBAT CIRCLED SANS-SERIF DIGIT EIGHTeFIVEeFOUReNINEeONEeSEVENeSIXeTHREEeTWOeZERO",
    "dNUMBER TENbNEGATIVE CIRCLED DIGIT EIGHTeFIVEeFOUReNINEeONEeSEVENeSIXeTHREEeTWOdNUMBER TEN",
    "dSANS-SERIF DIGIT EIGHTfFIVEfFOURfNINEfONEfSEVENfSIXfTHREEfTWOfZEROeNUMBER TEN",
    "aDIRECT CURRENT SYMBOL FORM TWObHITaDISABLED CARaDISAPPOINTED BUT RELIEVED FACEbFACE",
    "aDISCONTINUOUS UNDERLINE SYMBOLaDISGUISED FACEaDITTO MARKaDIVES AKURU DIGIT EIGHTdFIVEdFOUR",
    "dNINEdONEdSEVENdSIXdTHREEdTWOdZEROcDOUBLE DANDAcEND OF TEXT MARKcGAP FILLERcINITIAL RA",
    "cLETTER AdAAdBAdBHAdCAdCHAdDAdDDAdDDHAdDHAdEdGAdGHAdHAdIdIIdJAdKAdKHAdLAdLLAdMAdNAdNGAdNNA",
    "dNYAdOdPAdPHAdRAdSAdSHAdSSAdTAdTHAdTTAdUdUUdVAdYAdYYAdZAcMEDIAL RAdYAcPREFIXED NASAL SIGN",
    "cSIGN ANUSVARAdCANDRABINDUdHALANTAdNUKTAcVIRAMAcVOWEL SIGN AAeAIeEeIeIIeOeUeUUaDIVIDES",
    "aDIVING MASKaDIVISION SIGNbSLASHbTIMESaDIVORCE SYMBOLaDIYA LAMPaDIZZY FACEbSYMBOLaDLE",
    "aDNA DOUBLE HELIXaDO NOT LITTER SYMBOLaDOCUMENTbWITH PICTUREcTEXTdAND PICTUREaDODO",
    "aDOES NOT CONTAIN AS MEMBEReNORMAL SUBGROUPgOR EQUALcDIVIDEdWITH REVERSED NEGATION SLASH",
    "cFORCEcPRECEDEdOR EQUALcPROVEcSUCCEEDdOR EQUALaDOGbFACEaDOGRA ABBREVIATION SIGNbLETTER AcAA",
    "cAIcAUcBAcBHAcCAcCHAcDAcDDAcDDHAcDHAcEcGAcGHAcHAcIcIIcJAcJHAcKAcKHAcLAcMAcNAcNGAcNNAcNYAcO",
    "cPAcPHAcRAcRRAcSAcSHAcSSAcTAcTHAcTTAcTTHAcUcUUcVAcYAbSIGN ANUSVARAcNUKTAcVIRAMAcVISARGA",
    "bVOWEL SIGN AAdAIdAUdEdIdIIdOdUdUUdVOCALIC ReRRaDOLLAR SIGNaDOLPHIN",
    "aDOMINO TILE HORIZONTAL BACKcHORIZONTAL-00-00cHORIZONTAL-00-01cHORIZONTAL-00-02",
    "cHORIZONTAL-00-03cHORIZONTAL-00-04cHORIZONTAL-00-05cHORIZONTAL-00-06cHORIZONTAL-01-00",
    "cHORIZONTAL-01-01cHORIZONTAL-01-02cHORIZONTAL-01-03cHORIZONTAL-01-04cHORIZONTAL-01-05",
    "cHORIZONTAL-01-06cHORIZONTAL-02-00cHORIZONTAL-02-01cHORIZONTAL-02-02cHORIZONTAL-02-03",
    "cHORIZONTAL-02-04cHORIZONTAL-02-05cHORIZONTAL-02-06cHORIZONTAL-03-00cHORIZONTAL-03-01",
    "cHORIZONTAL-03-02cHORIZONTAL-03-03cHORIZONTAL-03-04cHORIZONTAL-03-05cHORIZONTAL-03-06",
    "cHORIZONTAL-04-00cHORIZONTAL-04-01cHORIZONTAL-04-02cHORIZONTAL-04-03cHORIZONTAL-04-04",
    "cHORIZONTAL-04-05cHORIZONTAL-04-06cHORIZONTAL-05-00cHORIZONTAL-05-01cHORIZONTAL-05-02",
    "cHORIZONTAL-05-03cHORIZONTAL-05-04cHORIZONTAL-05-05cHORIZONTAL-05-06cHORIZONTAL-06-00",
    "cHORIZONTAL-06-01cHORIZONTAL-06-02cHORIZONTAL-06-03cHORIZONTAL-06-04cHORIZONTAL-06-05",
    "cHORIZONTAL-06-06cVERTICAL BACKcVERTICAL-00-00cVERTICAL-00-01cVERTICAL-00-02cVERTICAL-00-03",
    "cVERTICAL-00-04cVERTICAL-00-05cVERTICAL-00-06cVERTICAL-01-00cVERTICAL-01-01cVERTICAL-01-02",
    "cVERTICAL-01-03cVERTICAL-01-04cVERTICAL-01-05cVERTICAL-01-06cVERTICAL-02-00cVERTICAL-02-01",
    "cVERTICAL-02-02cVERTICAL-02-03cVERTICAL-02-04cVERTICAL-02-05cVERTICAL-02-06cVERTICAL-03-00",
    "cVERTICAL-03-01cVERTICAL-03-02cVERTICAL-03-03cVERTICAL-03-04cVERTICAL-03-05cVERTICAL-03-06",
    "cVERTICAL-04-00cVERTICAL-04-01cVERTICAL-04-02cVERTICAL-04-03cVERTICAL-04-04cVERTICAL-04-05",
    "cVERTICAL-04-06cVERTICAL-05-00cVERTICAL-05-01cVERTICAL-05-02cVERTICAL-05-03cVERTICAL-05-04",
    "cVERTICAL-05-05cVERTICAL-05-06cVERTICAL-06-00cVERTICAL-06-01cVERTICAL-06-02cVERTICAL-06-03",
    "cVERTICAL-06-04cVERTICAL-06-05cVERTICAL-06-06aDONG SIGNaDOORaDOT ABOVEbMINUSbOPERATORbPLUS",
    "aDOTTED CIRCLEbCROSSbFENCEbLINE FACEbOBELOSbRIGHT-POINTING ANGLEbSOLIDUSbSQUARE",
    "bTRANSPOSITION MARKERaDOUBLE ACUTE ACCENTbCIRCLED DIGIT EIGHTdFIVEdFOURdNINEdONEdSEVENdSIX",
    "dTHREEdTWOcNUMBER TENbCOLON EQUALbCURLY LOOPbDAGGERbDOWN TACKbEXCLAMATION MARK",
    "bHIGH-REVERSED-9 QUOTATION MARKbHYPHENbINTEGRALbINTERSECTIONbLEFT ARC GREATER-THAN BRACKET",
    "bLOGICAL ANDcORbLOW LINEbLOW-9 QUOTATION MARKbLOW-REVERSED-9 QUOTATION MARK",
    "bNESTED GREATER-THANcLESS-THANdWITH UNDERBARbOBLIQUE HYPHENbPLUSbPRECEDESbPRIME",
    "cQUOTATION MARKbQUESTION MARKbRIGHT ARC LESS-THAN BRACKETbSOLIDUS OPERATOR",
    "bSQUARE INTERSECTIONcUNIONbSTACKED COMMAbSTROKE NOT SIGNbSUBSETbSUCCEEDSbSUPERSET",
    "bSUSPENSION MARKbUNIONbUP TACKbVERTICAL BARdDOUBLE LEFT TURNSTILEeRIGHT TURNSTILE",
    "dLEFT TURNSTILEcLINEbWAVY OVERLINEaDOUBLE-ENDED MULTIMAP",
    "aDOUBLE-LINE EQUAL TO OR GREATER-THANeLESS-THANbSLANTED EQUAL TO OR GREATER-THANfLESS-THAN",
    "cGREATER-THAN OR EQUAL TOcLESS-THAN OR EQUAL TOaDOUBLE-STRUCK CAPITAL CcGAMMAcHcNcPcPIcQcRcZ",
    "bITALIC CAPITAL DcSMALL DdEdIdJbN-ARY SUMMATIONbSMALL GAMMAcPIaDOUBLED FEMALE SIGNbMALE SIGN",
    "bSYMBOLaDOUGHNUTaDOVE OF PEACEaDOWN ARROWHEADbFISH TAILbRIGHT DIAGONAL ELLIPSISbTACK",
    "cWITH CIRCLE BELOWaDOWN-POINTING RED TRIANGLEbSMALL RED TRIANGLE",
    "bTRIANGLE WITH LEFT HALF BLACKdRIGHT HALF BLACKaDOWNWARD FACING HOOKdWITH DOTcNOTCHED HOOK",
    "eWITH DOTaDOWNWARDS ANCORAbARROWcAND RIGHT ONE EIGHTH BLOCKcFROM BAR",
    "cLEFTWARDS OF UPWARDS ARROWcTO BARcWITH CORNER LEFTWARDSdDOUBLE STROKEdEQUILATERAL ARROWHEAD",
    "dHORIZONTAL STROKEdLARGE TRIANGLE ARROWHEADdMEDIUM TRIANGLE ARROWHEADdNOTCHED TAIL",
    "dSMALL EQUILATERAL ARROWHEADeTRIANGLE ARROWHEADdTIP LEFTWARDSeRIGHTWARDSbBLACK ARROW",
    "cCIRCLED WHITE ARROWbCOMPRESSED ARROWbDASHED ARROWbDOUBLE ARROWbFINGER-POST ARROW",
    "bHARPOON WITH BARB LEFT BESIDE DOWNWARDS HARPOON WITH BARB RIGHT",
    "gUPWARDS HARPOON WITH BARB RIGHTfFROM BARfTO BAReLEFTWARDSeRIGHT FROM BARfTO BAReRIGHTWARDS",
    "bHEAVY ARROWcCOMPRESSED ARROWbPAIRED ARROWSbQUADRUPLE ARROWbROCKETbSANS-SERIF ARROW",
    "bSQUARED ARROWbTRIANGLE ARROWHEADbTRIANGLE-HEADED ARROW",
    "dLEFTWARDS OF UPWARDS TRIANGLE-HEADED ARROWdTO BARdWITH BOLD SHAFTeDOUBLE HORIZONTAL STROKE",
    "eHEAVY SHAFTeLONG TIP LEFTWARDSgRIGHTWARDSeMEDIUM SHAFTeNARROW SHAFTeVERY HEAVY SHAFT",
    "cDASHED ARROWcPAIRED ARROWScZIGZAG ARROWbTRIPLE ARROWbTWO HEADED ARROW",
    "bTWO-HEADED ARROW WITH TRIANGLE ARROWHEADSbWHITE ARROWdWITHIN TRIANGLE ARROWHEAD",
    "bZIGZAG ARROWaDRACHMA SIGNaDRAFTING POINT RIGHTWARDS ARROWaDRAGONbFACEaDRESSaDRIVE SLOW SIGN",
    "aDROMEDARY CAMELaDROOLING FACEaDROP OF BLOODaDROPLETaDRUM WITH DRUMSTICKSaDUCKaDUMPLING",
    "aDUPLOYAN AFFIX ATTACHED E HOOKdI HOOKdLEFT-TO-RIGHT SECANTdSECANTdTAILdTANGENTeHOOK",
    "cHIGH ACUTEdCIRCLEdDOTdGRAVEdLINEdLONG GRAVEdTIGHT ACUTEdVERTICALeSECANTdWAVE",
    "cLEFT HORIZONTAL SECANTcLOW ACUTEdARROWdCIRCLEdDOTdGRAVEdLINEdLONG GRAVEdTIGHT ACUTE",
    "dVERTICALeSECANTdWAVEcMID HORIZONTAL SECANTdVERTICAL SECANTcRIGHT HORIZONTAL SECANT",
    "bDOUBLE MARKbLETTER AcAOUcBcDdScDHcEcEEcEUcFdNcGdR ScHcHLcIcIEcJdMeSdNeSdSeWITH DOTdWITH DOT",
    "eDOTS INSIDE AND ABOVEcKdMdR ScKKcLcLHcLONG IdUcMdNeSdSdWITH DOTcNdMeSdSdWITH DOTcNASAL AdI",
    "dOdUcOcOAcOOHcOUcOWcPdNcPERNIN AMdANcRdScRHcROMANIAN IdUcSdJeSdKeRdMdNdPeRdSdTeRdWITH DOT",
    "fBELOWcSHORT IcSLOAN ANdDHdEEdEHdENdJdONdOWdUcTdR SdScTHcUdNcUHcUIcVcVOCALIC McWdRcWAcWEIcWH",
    "cWIcWOcWOWcXcXWcYEbPUNCTUATION CHINOOK FULL STOPbSIGN O WITH CROSSbTHICK LETTER SELECTORaDVD",
    "aE-MAIL SYMBOLaEAGLEaEARbOF MAIZEcRICEbWITH HEARING AIDaEARTHbGLOBE AMERICAScASIA-AUSTRALIA",
    "cEUROPE-AFRICAbGROUNDaEAST SYRIAC CROSSaEDITORIAL CORONISaEGGaEGYPTIAN HIEROGLYPH A001cA002",
    "cA003cA004cA005cA005AcA006cA006AcA006BcA007cA008cA009cA010cA011cA012cA013cA014cA014AcA015",
    "cA016cA017cA017AcA018cA019cA020cA021cA022cA023cA024cA025cA026cA027cA028cA029cA030cA031cA032",
    "cA032AcA033cA034cA035cA036cA037cA038cA039cA040cA040AcA041cA042cA042AcA043cA043AcA044cA045",
    "cA045AcA046cA047cA048cA049cA050cA051cA052cA053cA054cA055cA056cA057cA058cA059cA060cA061cA062",
    "cA063cA064cA065cA066cA067cA068cA069cA070cAA001cAA002cAA003cAA004cAA005cAA006cAA007cAA007A",
    "cAA007BcAA008cAA009cAA010cAA011cAA012cAA013cAA014cAA015cAA016cAA017cAA018cAA019cAA020cAA021",
    "cAA022cAA023cAA024cAA025cAA026cAA027cAA028cAA029cAA030cAA031cAA032cB001cB002cB003cB004cB005",
    "cB005AcB006cB007cB008cB009cBEGIN SEGMENTcC001cC002cC002AcC002BcC002CcC003cC004cC005cC006",
    "cC007cC008cC009cC010cC010AcC011cC012cC013cC014cC015cC016cC017cC018cC019cC020cC021cC022cC023",
    "cC024cD001cD002cD003cD004cD005cD006cD007cD008cD008AcD009cD010cD011cD012cD013cD014cD015cD016",
    "cD017cD018cD019cD020cD021cD022cD023cD024cD025cD026cD027cD027AcD028cD029cD030cD031cD031AcD032",
    "cD033cD034cD034AcD035cD036cD037cD038cD039cD040cD041cD042cD043cD044cD045cD046cD046AcD047cD048",
    "cD048AcD049cD050cD050AcD050BcD050CcD050DcD050EcD050FcD050GcD050HcD050IcD051cD052cD052AcD053",
    "cD054cD054AcD055cD056cD057cD058cD059cD060cD061cD062cD063cD064cD065cD066cD067cD067AcD067B",
    "cD067CcD067DcD067EcD067FcD067GcD067HcE001cE002cE003cE004cE005cE006cE007cE008cE008AcE009",
    "cE009AcE010cE011cE012cE013cE014cE015cE016cE016AcE017cE017AcE018cE019cE020cE020AcE021cE022",
    "cE023cE024cE025cE026cE027cE028cE028AcE029cE030cE031cE032cE033cE034cE034AcE036cE037cE038",
    "cEND SEGMENTcF001cF001AcF002cF003cF004cF005cF006cF007cF008cF009cF010cF011cF012cF013cF013A",
    "cF014cF015cF016cF017cF018cF019cF020cF021cF021AcF022cF023cF024cF025cF026cF027cF028cF029cF030",
    "cF031cF031AcF032cF033cF034cF035cF036cF037cF037AcF038cF038AcF039cF040cF041cF042cF043cF044",
    "cF045cF045AcF046cF046AcF047cF047AcF048cF049cF050cF051cF051AcF051BcF051CcF052cF053cG001cG002",
    "cG003cG004cG005cG006cG006AcG007cG007AcG007BcG008cG009cG010cG011cG011AcG012cG013cG014cG015",
    "cG016cG017cG018cG019cG020cG020AcG021cG022cG023cG024cG025cG026cG026AcG027cG028cG029cG030cG031",
    "cG032cG033cG034cG035cG036cG036AcG037cG037AcG038cG039cG040cG041cG042cG043cG043AcG044cG045",
    "cG045AcG046cG047cG048cG049cG050cG051cG052cG053cG054cH001cH002cH003cH004cH005cH006cH006AcH007",
    "cH008cHORIZONTAL JOINERcI001cI002cI003cI004cI005cI005AcI006cI007cI008cI009cI009AcI010cI010A",
    "cI011cI011AcI012cI013cI014cI015cINSERT AT BOTTOM ENDfSTARTeTOP ENDfSTARTcK001cK002cK003cK004",
    "cK005cK006cK007cK008cL001cL002cL002AcL003cL004cL005cL006cL006AcL007cL008cM001cM001AcM001B",
    "cM002cM003cM003AcM004cM005cM006cM007cM008cM009cM010cM010AcM011cM012cM012AcM012BcM012CcM012D",
    "cM012EcM012FcM012GcM012HcM013cM014cM015cM015AcM016cM016AcM017cM017AcM018cM019cM020cM021cM022",
    "cM022AcM023cM024cM024AcM025cM026cM027cM028cM028AcM029cM030cM031cM031AcM032cM033cM033AcM033B",
    "cM034cM035cM036cM037cM038cM039cM040cM040AcM041cM042cM043cM044cN001cN002cN003cN004cN005cN006",
    "cN007cN008cN009cN010cN011cN012cN013cN014cN015cN016cN017cN018cN018AcN018BcN019cN020cN021cN022",
    "cN023cN024cN025cN025AcN026cN027cN028cN029cN030cN031cN032cN033cN033AcN034cN034AcN035cN035A",
    "cN036cN037cN037AcN038cN039cN040cN041cN042cNL001cNL002cNL003cNL004cNL005cNL005AcNL006cNL007",
    "cNL008cNL009cNL010cNL011cNL012cNL013cNL014cNL015cNL016cNL017cNL017AcNL018cNL019cNL020cNU001",
    "cNU002cNU003cNU004cNU005cNU006cNU007cNU008cNU009cNU010cNU010AcNU011cNU011AcNU012cNU013cNU014",
    "cNU015cNU016cNU017cNU018cNU018AcNU019cNU020cNU021cNU022cNU022AcO001cO001AcO002cO003cO004",
    "cO005cO005AcO006cO006AcO006BcO006CcO006DcO006EcO006FcO007cO008cO009cO010cO010AcO010BcO010C",
    "cO011cO012cO013cO014cO015cO016cO017cO018cO019cO019AcO020cO020AcO021cO022cO023cO024cO024A",
    "cO025cO025AcO026cO027cO028cO029cO029AcO030cO030AcO031cO032cO033cO033AcO034cO035cO036cO036A",
    "cO036BcO036CcO036DcO037cO038cO039cO040cO041cO042cO043cO044cO045cO046cO047cO048cO049cO050",
    "cO050AcO050BcO051cOVERLAY MIDDLEcP001cP001AcP002cP003cP003AcP004cP005cP006cP007cP008cP009",
    "cP010cP011cQ001cQ002cQ003cQ004cQ005cQ006cQ007cR001cR002cR002AcR003cR003AcR003BcR004cR005",
    "cR006cR007cR008cR009cR010cR010AcR011cR012cR013cR014cR015cR016cR016AcR017cR018cR019cR020cR021",
    "cR022cR023cR024cR025cR026cR027cR028cR029cS001cS002cS002AcS003cS004cS005cS006cS006AcS007cS008",
    "cS009cS010cS011cS012cS013cS014cS014AcS014BcS015cS016cS017cS017AcS018cS019cS020cS021cS022",
    "cS023cS024cS025cS026cS026AcS026BcS027cS028cS029cS030cS031cS032cS033cS034cS035cS035AcS036",
    "cS037cS038cS039cS040cS041cS042cS043cS044cS045cS046cT001cT002cT003cT003AcT004cT005cT006cT007",
    "cT007AcT008cT008AcT009cT009AcT010cT011cT011AcT012cT013cT014cT015cT016cT016AcT017cT018cT019",
    "cT020cT021cT022cT023cT024cT025cT026cT027cT028cT029cT030cT031cT032cT032AcT033cT033AcT034cT035",
    "cT036cU001cU002cU003cU004cU005cU006cU006AcU006BcU007cU008cU009cU010cU011cU012cU013cU014cU015",
    "cU016cU017cU018cU019cU020cU021cU022cU023cU023AcU024cU025cU026cU027cU028cU029cU029AcU030cU031",
    "cU032cU032AcU033cU034cU035cU036cU037cU038cU039cU040cU041cU042cV001cV001AcV001BcV001CcV001D",
    "cV001EcV001FcV001GcV001HcV001IcV002cV002AcV003cV004cV005cV006cV007cV007AcV007BcV008cV009",
    "cV010cV011cV011AcV011BcV011CcV012cV012AcV012BcV013cV014cV015cV016cV017cV018cV019cV020cV020A",
    "cV020BcV020CcV020DcV020EcV020FcV020GcV020HcV020IcV020JcV020KcV020LcV021cV022cV023cV023AcV024",
    "cV025cV026cV027cV028cV028AcV029cV029AcV030cV030AcV031cV031AcV032cV033cV033AcV034cV035cV036",
    "cV037cV037AcV038cV039cV040cV040AcVERTICAL JOINERcW001cW002cW003cW003AcW004cW005cW006cW007",
    "cW008cW009cW009AcW010cW010AcW011cW012cW013cW014cW014AcW015cW016cW017cW017AcW018cW018AcW019",
    "cW020cW021cW022cW023cW024cW024AcW025cX001cX002cX003cX004cX004AcX004BcX005cX006cX006AcX007",
    "cX008cX008AcY001cY001AcY002cY003cY004cY005cY006cY007cY008cZ001cZ002cZ002AcZ002BcZ002CcZ002D",
    "cZ003cZ003AcZ003BcZ004cZ004AcZ005cZ005AcZ006cZ007cZ008cZ009cZ010cZ011cZ012cZ013cZ014cZ015",
    "cZ015AcZ015BcZ015CcZ015DcZ015EcZ015FcZ015GcZ015HcZ015IcZ016cZ016AcZ016BcZ016CcZ016DcZ016E",
    "cZ016FcZ016GcZ016HaEIGHT PETALLED OUTLINED BLACK FLORETTEbPOINTED BLACK STARcPINWHEEL STAR",
    "cRECTILINEAR BLACK STARbSPOKED ASTERISKbTEARDROP-SPOKED PROPELLER ASTERISKaEIGHTH NOTE",
    "aEJECT SYMBOLaELBASAN LETTER AcBEcCEcCHEcDEcDHEcEcEIcFEcGEcGHAMMAcGHEcGJEcHEcIcJEcKEcKHEcLE",
    "cLLEcMEcNAcNDEcNEcNJEcOcPEcQEcREcRREcSEcSHEcTEcTHEcUcVEcXEcYcZEcZHEaELECTRIC ARROW",
    "bLIGHT BULBbPLUGbTORCHaELECTRICAL INTERSECTIONaELEMENT OFcOPENING DOWNWARDSdUPWARDS",
    "cWITH DOT ABOVEdLONG HORIZONTAL STROKEdOVERBARdTWO HORIZONTAL STROKESdUNDERBAR",
    "dVERTICAL BAR AT END OF HORIZONTAL STROKEaELEPHANTaELEVATORaELFaELYMAIC LETTER ALEPHcAYIN",
    "cBETHcDALETHcGIMELcHEcHETHcKAPHcLAMEDHcMEMcNUNcPEcQOPHcRESHcSADHEcSAMEKHcSHINcTAWcTETHcWAW",
    "cYODHcZAYINbLIGATURE ZAYIN-YODHaEM DASHbQUADbSPACEaEMOJI COMPONENT BALDcCURLY HAIRcRED HAIR",
    "cWHITE HAIRbMODIFIER FITZPATRICK TYPE-1-2dTYPE-3dTYPE-4dTYPE-5dTYPE-6aEMPHASIS SYMBOL",
    "aEMPTY DOCUMENTbNESTbNOTEcPADcPAGEbPAGEbPAGESbSETcWITH LEFT ARROW ABOVEdOVERBAR",
    "dRIGHT ARROW ABOVEdSMALL CIRCLE ABOVEaEN DASHbQUADbSPACEaEND OF GUARDED AREAcLINEcMEDIUM",
    "cPROOFcPROTECTED AREAcSELECTED AREAcTEXTcTRANSMISSIONdBLOCKbWITH LEFTWARDS ARROW ABOVEaENQ",
    "aENQUIRYaENTER SYMBOLaENVELOPEbWITH DOWNWARDS ARROW ABOVEcLIGHTNINGaEOLaEOMaEOTaEPA",
    "aEQUAL AND PARALLEL TObTO BY DEFINITIONcOR GREATER-THANdLESS-THANdPRECEDESdSUCCEEDS",
    "aEQUALS COLONbSIGNcABOVE LEFTWARDS ARROWdPLUS SIGNdRIGHTWARDS ARROWdTILDE OPERATOR",
    "cAND SLANTED PARALLELfWITH TILDE ABOVEcWITH BUMPY ABOVEdDOT BELOWdINFINITY BELOW",
    "dTWO DOTS ABOVE AND TWO DOTS BELOWbWITH ASTERISKaEQUIANGULAR TOaEQUIVALENT TO",
    "bWITH FOUR DOTS ABOVEaERASE TO THE LEFTdRIGHTaERIS FORM ONEcTWOaERROR-BARRED BLACK CIRCLE",
    "cDIAMONDcSQUAREbWHITE CIRCLEcDIAMONDcSQUAREaESAaESCaESCAPEaESTIMATED SYMBOLaESTIMATESaETB",
    "aETHIOPIC COLONbCOMBINING GEMINATION AND VOWEL LENGTH MARKdMARKcVOWEL LENGTH MARKbCOMMA",
    "bDIGIT EIGHTcFIVEcFOURcNINEcONEcSEVENcSIXcTHREEcTWObFULL STOPbNUMBER EIGHTYcFIFTYcFORTY",
    "cHUNDREDcNINETYcSEVENTYcSIXTYcTENdTHOUSANDcTHIRTYcTWENTYbPARAGRAPH SEPARATORbPREFACE COLON",
    "bQUESTION MARKbSECTION MARKbSEMICOLONbSYLLABLE BAcBAAcBBAcBBAAcBBEcBBEEcBBIcBBOcBBUcBEcBEE",
    "cBIcBOcBOAcBUcBWAcBWEcBWEEcBWIcCAcCAAcCCAcCCAAcCCEcCCEEcCCHAcCCHAAcCCHEcCCHEEcCCHHAcCCHHAA",
    "cCCHHEcCCHHEEcCCHHIcCCHHOcCCHHUcCCHIcCCHOcCCHUcCCIcCCOcCCUcCEcCEEcCHAcCHAAcCHEcCHEEcCHIcCHO",
    "cCHOAcCHUcCHWAcCIcCOcCOAcCUcCWAcDAcDAAcDDAcDDAAcDDEcDDEEcDDHAAcDDHEcDDHEEcDDHIcDDHOcDDHUcDDI",
    "cDDOcDDOAcDDUcDDWAcDEcDEEcDIcDOcDOAcDUcDWAcDZAAcDZEcDZEEcDZIcDZOcDZUcFAcFAAcFEcFEEcFIcFOcFU",
    "cFWAcFWEcFWEEcFWIcFYAcGAcGAAcGEcGEEcGGAcGGAAcGGEcGGEEcGGIcGGOcGGUcGGWAcGGWAAcGGWEcGGWEEcGGWI",
    "cGIcGLOTTAL AdAAdEdEEdIdOdOAdUdWAcGOcGOAcGUcGURAGE BWEEdBWIdFWEEdFWIdGWEdGWEEdGWIdHHWAdKWE",
    "dKWEEdKWIdMWEEdMWIdPWEEdPWIdQWEdQWEEdQWIcGWAcGWAAcGWEcGWEEcGWIcGYAcGYAAcGYEcGYEEcGYIcGYOcGYU",
    "cHAcHAAcHEcHEEcHHAcHHAAcHHEcHHEEcHHIcHHOcHHUcHHWAcHHWEcHHWEEcHHWIcHHYAcHHYAAcHHYEcHHYEEcHHYI",
    "cHHYOcHHYUcHIcHOcHOAcHUcJAcJAAcJEcJEEcJIcJOcJOAcJUcJWAcKAcKAAcKEcKEEcKIcKOcKOAcKUcKWAcKWAA",
    "cKWEcKWEEcKWIcKXAcKXAAcKXEcKXEEcKXIcKXOcKXUcKXWAcKXWAAcKXWEcKXWEEcKXWIcKYAcKYAAcKYEcKYEEcKYI",
    "cKYOcKYUcLAcLAAcLEcLEEcLIcLOcLOAcLUcLWAcMAcMAAcMEcMEEcMIcMOcMOAcMUcMWAcMWEcMWEEcMWIcMYAcNA",
    "cNAAcNEcNEEcNIcNOcNOAcNUcNWAcNYAcNYAAcNYEcNYEEcNYIcNYOcNYOAcNYUcNYWAcPAcPAAcPEcPEEcPHAcPHAA",
    "cPHARYNGEAL AdAAdEdEEdIdOdUcPHEcPHEEcPHIcPHOcPHOAcPHUcPHWAcPIcPOcPOAcPUcPWAcPWEcPWEEcPWIcQA",
    "cQAAcQEcQEEcQHAcQHAAcQHEcQHEEcQHIcQHOcQHUcQHWAcQHWAAcQHWEcQHWEEcQHWIcQIcQOcQOAcQUcQWAcQWAA",
    "cQWEcQWEEcQWIcQYAcQYAAcQYEcQYEEcQYIcQYOcQYUcRAcRAAcREcREEcRIcROcROAcRUcRWAcRYAcSAcSAAcSE",
    "cSEBATBEIT BWAdFWAdMWAdPWAcSEEcSHAcSHAAcSHEcSHEEcSHIcSHOcSHOAcSHUcSHWAcSIcSOcSOAcSSAcSSAA",
    "cSSEcSSEEcSSIcSSOcSSUcSUcSWAcSZAcSZAAcSZEcSZEEcSZIcSZOcSZUcSZWAcTAcTAAcTEcTEEcTHAcTHAAcTHE",
    "cTHEEcTHIcTHOcTHOAcTHUcTHWAcTIcTOcTOAcTSAcTSAAcTSEcTSEEcTSIcTSOcTSUcTSWAcTTHAAcTTHEcTTHEE",
    "cTTHIcTTHOcTTHUcTUcTWAcTZAcTZAAcTZEcTZEEcTZIcTZOcTZOAcTZUcVAcVAAcVEcVEEcVIcVOcVUcVWAcWAcWAA",
    "cWEcWEEcWIcWOcWOAcWUcXAcXAAcXEcXEEcXIcXOcXOAcXUcXWAcXWAAcXWEcXWEEcXWIcXYAcXYAAcXYEcXYEEcXYI",
    "cXYOcXYUcYAcYAAcYEcYEEcYIcYOcYOAcYUcZAcZAAcZEcZEEcZHAcZHAAcZHEcZHEEcZHIcZHOcZHUcZHWAcZIcZO",
    "cZOAcZUcZWAcZZAcZZAAcZZEcZZEEcZZIcZZOcZZUbTONAL MARK CHIRETdDERETdDERET-HIDETdDIFATdHIDET",
    "dKENATdKURTdRIKRIKdSHORT RIKRIKdYIZETbWORDSPACEaETXaEULER CONSTANTaEURO SIGN",
    "aEURO-CURRENCY SIGNaEUROPEAN CASTLEbPOST OFFICEaEVERGREEN TREEaEXCESSaEXCLAMATION MARK",
    "bQUESTION MARKaEXPRESSIONLESS FACEaEXTENDED ARABIC-INDIC DIGIT EIGHTdFIVEdFOURdNINEdONE",
    "dSEVENdSIXdTHREEdTWOdZEROaEXTRATERRESTRIAL ALIENaEXTREMELY HEAVY FIVE SPOKED ASTERISK",
    "cGREEK CROSScSALTIREcSIX SPOKED ASTERISKcWHITE CIRCLEdSQUAREaEYEaEYEGLASSESaEYES",
    "aFACE HOLDING BACK TEARSbMASSAGEbPALMbSAVOURING DELICIOUS FOODbSCREAMING IN FEAR",
    "bTHROWING A KISSbWITH COLD SWEATcCOWBOY HATcDIAGONAL MOUTHcFINGER COVERING CLOSED LIPS",
    "cHEAD-BANDAGEcLOOK OF TRIUMPHcMEDICAL MASKcMONOCLEcNO GOOD GESTUREcOK GESTURE",
    "cONE EYEBROW RAISEDcOPEN EYES AND HAND OVER MOUTHdMOUTHeAND COLD SWEATeVOMITING",
    "cPARTY HORN AND PARTY HATcPEEKING EYEcPLEADING EYEScROLLING EYEScSTUCK-OUT TONGUE",
    "eAND TIGHTLY-CLOSED EYESfWINKING EYEcTEARS OF JOYcTHERMOMETERcUNEVEN EYES AND WAVY MOUTH",
    "bWITHOUT MOUTHaFACSIMILE SIGNaFACTORYaFAIRYaFALAFELaFALLEN LEAF",
    "aFALLING DIAGONAL CROSSING NORTH EAST ARROWdRISING DIAGONALcIN WHITE CIRCLE IN BLACK SQUARE",
    "aFAMILYaFARSI SYMBOLaFATHER CHRISTMASaFAX ICONbMACHINEaFEARFUL FACEaFEATHERaFEMALE SIGN",
    "aFEMININE ORDINAL INDICATORaFENCERaFERRIS WHEELaFERRYaFFaFIELD HOCKEY STICK AND BALL",
    "aFIGURE DASHbSPACEaFILE CABINETbFOLDERbSEPARATORaFILM FRAMESbPROJECTORaFINITE PART INTEGRAL",
    "aFIREbENGINEbEXTINGUISHERaFIRECRACKERaFIREWORK SPARKLERaFIREWORKSaFIRST PLACE MEDAL",
    "bQUARTER MOONdSYMBOLdWITH FACEbSTRONG ISOLATEaFISHbCAKE WITH SWIRL DESIGNaFISHEYE",
    "aFISHING POLE AND FISHaFISTED HAND SIGNaFIVE DOT MARKcPUNCTUATIONaFLAG IN HOLEaFLAMINGO",
    "aFLAT SHOEaFLATBREADaFLATNESSaFLEUR-DE-LISaFLEXED BICEPSaFLOPPY DISKaFLORAL HEARTaFLOWER",
    "bPLAYING CARDSbPUNCTUATION MARKaFLUSHED FACEaFLYaFLYING DISCbENVELOPEbSAUCERaFOGaFOGGY",
    "aFOLDERaFONDUEaFOOTaFOOTPRINTSaFOR ALLaFORCESaFORK AND KNIFEdWITH PLATEaFORKED PARAGRAPHOS",
    "aFORKINGaFORM FEEDaFORTUNE COOKIEaFOUNTAINaFOUR BALLOON-SPOKED ASTERISKbCLUB-SPOKED ASTERISK",
    "bCORNER ARROWS CIRCLING ANTICLOCKWISEbDOT MARKcPUNCTUATIONbLEAF CLOVERbPOINTED BLACK STAR",
    "bTEARDROP-SPOKED ASTERISKaFOUR-PER-EM SPACEaFOURTH ROOTaFOX FACEaFRACTION NUMERATOR ONE",
    "bSLASHaFRAME WITH AN XcPICTUREcTILESaFREEZING FACEaFRENCH FRANC SIGNbFRIESaFRIED SHRIMP",
    "aFROG FACEaFRONT-FACING BABY CHICKaFRONT-TILTED SHADOWED WHITE RIGHTWARDS ARROWaFROWN",
    "aFROWNING FACE WITH OPEN MOUTHaFSaFSIaFUEL PUMPaFULL BLOCKbMOON SYMBOLcWITH FACEbOUTER JOIN",
    "bSTOPaFULLWIDTH AMPERSANDbAPOSTROPHEbASTERISKbBROKEN BARbCENT SIGNbCIRCUMFLEX ACCENTbCOLON",
    "bCOMMAbCOMMERCIAL ATbDIGIT EIGHTcFIVEcFOURcNINEcONEcSEVENcSIXcTHREEcTWOcZERObDOLLAR SIGN",
    "bEQUALS SIGNbEXCLAMATION MARKbFULL STOPbGRAVE ACCENTbGREATER-THAN SIGNbHYPHEN-MINUS",
    "bLATIN CAPITAL LETTER AeBeCeDeEeFeGeHeIeJeKeLeMeNeOePeQeReSeTeUeVeWeXeYeZcSMALL LETTER AeBeC",
    "eDeEeFeGeHeIeJeKeLeMeNeOePeQeReSeTeUeVeWeXeYeZbLEFT CURLY BRACKETcPARENTHESIScSQUARE BRACKET",
    "cWHITE PARENTHESISbLESS-THAN SIGNbLOW LINEbMACRONbNOT SIGNbNUMBER SIGNbPERCENT SIGN",
    "bPLUS SIGNbPOUND SIGNbQUESTION MARKbQUOTATION MARKbREVERSE SOLIDUSbRIGHT CURLY BRACKET",
    "cPARENTHESIScSQUARE BRACKETcWHITE PARENTHESISbSEMICOLONbSOLIDUSbTILDEbVERTICAL LINEbWON SIGN",
    "bYEN SIGNaFUNCTION APPLICATIONaFUNERAL URNaFUSEaFVS1aFVS2aFVS3aFVS4aGAME DIEaGARLICaGEAR",
    "bWITH HANDLESbWITHOUT HUBaGEM STONEaGEMINIaGENIEaGEOMETRIC PROPORTIONaGEOMETRICALLY EQUAL TO",
    "bEQUIVALENT TOaGEORGIAN CAPITAL LETTER AENdANdBANdCANdCHARdCHINdCILdDONdENdGANdGHANdHAEdHAR",
    "dHEdHIEdHOEdINdJHANdJILdKANdKHARdLASdMANdNARdONdPARdPHARdQARdRAEdSANdSHINdTANdTARdUNdVINdWE",
    "dXANdYNdZENdZHARbLETTER AENcAINcANcBANcCANcCHARcCHINcCILcDONcELIFIcENcFIcGANcGHANcHAEcHAR",
    "cHARD SIGNcHEcHIEcHOEcINcJHANcJILcKANcKHARcLABIAL SIGNcLAScMANcNARcONcPARcPHARcQARcRAEcSAN",
    "cSHINcTANcTARcTURNED GANcUNcVINcWEcXANcYNcZENcZHARbMTAVRULI CAPITAL LETTER AENeAINeANeBAN",
    "eCANeCHAReCHINeCILeDONeELIFIeENeFIeGANeGHANeHAEeHAReHARD SIGNeHEeHIEeHOEeINeJHANeJILeKAN",
    "eKHAReLABIAL SIGNeLASeMANeNAReONePARePHAReQAReRAEeSANeSHINeTANeTAReTURNED GANeUNeVINeWEeXAN",
    "eYNeZENeZHARbPARAGRAPH SEPARATORbSMALL LETTER AENdANdBANdCANdCHARdCHINdCILdDONdENdGANdGHAN",
    "dHAEdHARdHEdHIEdHOEdINdJHANdJILdKANdKHARdLASdMANdNARdONdPARdPHARdQARdRAEdSANdSHINdTANdTARdUN",
    "dVINdWEdXANdYNdZENdZHARaGERMAN PENNY SIGNaGETA MARKaGHOSTaGIMEL SYMBOLaGIRAFFE FACEaGIRL",
    "aGIRLS SYMBOLaGLAGOLITIC CAPITAL LETTER AZUdBIG YUSdBUKYdCAUDATE CHRIVIdCHRIVIdDJERVIdDOBRO",
    "dDZELOdFITAdFRITUdGLAGOLIdHERUdIdINITIAL IZHEdIOTATED BIG YUSeSMALL YUSdIZHEdIZHITSAdKAKO",
    "dLATINATE MYSLITEdLJUDIJEdMYSLITEdNASHIdONUdOTUdPEdPOKOJIdRITSIdSHAdSHTAdSHTAPICdSLOVO",
    "dSMALL YUSfWITH TAILdSPIDERY HAdTROKUTASTI AdTSIdTVRIDOdUKUdVEDEdYATIdYERIdYERUdYESTUdYOdYU",
    "dZEMLJAdZHIVETEbSMALL LETTER AZUdBIG YUSdBUKYdCAUDATE CHRIVIdCHRIVIdDJERVIdDOBROdDZELOdFITA",
    "dFRITUdGLAGOLIdHERUdIdINITIAL IZHEdIOTATED BIG YUSeSMALL YUSdIZHEdIZHITSAdKAKO",
    "dLATINATE MYSLITEdLJUDIJEdMYSLITEdNASHIdONUdOTUdPEdPOKOJIdRITSIdSHAdSHTAdSHTAPICdSLOVO",
    "dSMALL YUSfWITH TAILdSPIDERY HAdTROKUTASTI AdTSIdTVRIDOdUKUdVEDEdYATIdYERIdYERUdYESTUdYOdYU",
    "dZEMLJAdZHIVETEaGLASS OF MILKaGLEICH STARKaGLOBE WITH MERIDIANSaGLOVESaGLOWING STARaGOAL NET",
    "aGOATaGOGGLESaGOLFERaGORILLAaGOTHIC LETTER AHSAcAIHVUScBAIRKANcDAGScEIScFAIHUcGIBAcHAGL",
    "cHWAIRcIGGWScIUJAcJERcKUSMAcLAGUScMANNAcNAUTHScNINE HUNDREDcNINETYcOTHALcPAIRTHRAcQAIRTHRA",
    "cRAIDAcSAUILcTEIWScTHIUTHcURUScWINJAaGRADUATION CAPaGRANTHA AU LENGTH MARKbLETTER AcAAcAIcAU",
    "cBAcBHAcCAcCHAcDAcDDAcDDHAcDHAcEEcGAcGHAcHAcIcIIcJAcJHAcKAcKHAcLAcLLAcMAcNAcNGAcNNAcNYAcOO",
    "cPAcPHAcRAcSAcSHAcSSAcTAcTHAcTTAcTTHAcUcUUcVAcVEDIC ANUSVARAdDOUBLE ANUSVARAcVOCALIC LdLLdR",
    "dRRcYAbOMbSIGN ANUSVARAcAVAGRAHAcCANDRABINDUcCOMBINING ANUSVARA ABOVEcNUKTAcPLUTAcVIRAMA",
    "cVISARGAbVOWEL SIGN AAdAIdAUdEEdIdIIdOOdUdUUdVOCALIC LeLLeReRRaGRAPESaGRAVE ACCENT",
    "aGREATER-THAN ABOVE DOUBLE-LINE EQUAL ABOVE LESS-THANcLESS-THAN ABOVE DOUBLE-LINE EQUAL",
    "cRIGHTWARDS ARROWcSIMILAR ABOVE LESS-THANdOR EQUAL",
    "cSLANTED EQUAL ABOVE LESS-THAN ABOVE SLANTED EQUALbAND NOT APPROXIMATE",
    "cSINGLE-LINE NOT EQUAL TObBESIDE LESS-THANbBUT NOT EQUAL TOdEQUIVALENT TObCLOSED BY CURVE",
    "eABOVE SLANTED EQUALbEQUAL TO OR LESS-THANbOR APPROXIMATEcEQUAL TOcEQUIVALENT TOcLESS-THAN",
    "cSLANTED EQUAL TOfWITH DOT ABOVEiLEFThINSIDEbOVER EQUAL TObOVERLAPPING LESS-THANbSIGN",
    "bWITH CIRCLE INSIDEcDOTcQUESTION MARK ABOVEaGREEK ACROPHONIC ATTIC FIFTYeSTATERSeTALENTS",
    "eTHOUSANDfSTATERSdFIVEeHUNDREDfSTATERSfTALENTSeSTATERSeTALENTSeTHOUSANDfTALENTSdONE DRACHMA",
    "eHALFeHUNDRED STATERSfTALENTSeQUARTEReTHOUSAND STATERSfTALENTSdTEN MNASeSTATERSeTALENTS",
    "eTHOUSAND STATERScCARYSTIAN FIVE HUNDREDcCYRENAIC TWO DRACHMAScDELPHIC FIVE MNAS",
    "cEPIDAUREAN FIVE HUNDREDdTWOeDRACHMAScHERAEUM ONE PLETHRONcHERMIONIAN FIFTYdONEdTEN",
    "cMESSENIAN TENcNAXIAN FIVE HUNDREDcSTRATIAN FIFTY MNAScTHESPIAN FIFTYdFIVE HUNDREDeTHOUSAND",
    "dONEeHUNDREDeTHOUSANDdTENdTHIRTYdTHREE HUNDREDdTWOcTROEZENIAN FIFTYeALTERNATE FORMdFIVE",
    "eHUNDREDdTENeALTERNATE FORMbANO TELEIAbAROURA SIGNbARTABE SIGNbBETA SYMBOL",
    "bCAPITAL DOTTED LUNATE SIGMA SYMBOLcKAI SYMBOLcLETTER ALPHAeWITH DASIAgAND OXIA",
    "iAND PROSGEGRAMMENIhPERISPOMENIiAND PROSGEGRAMMENIhPROSGEGRAMMENIhVARIAiAND PROSGEGRAMMENI",
    "fMACRONfOXIAfPROSGEGRAMMENIfPSILIgAND OXIAiAND PROSGEGRAMMENIhPERISPOMENIiAND PROSGEGRAMMENI",
    "hPROSGEGRAMMENIhVARIAiAND PROSGEGRAMMENIfTONOSfVARIAfVRACHYdARCHAIC SAMPIdBETAdCHIdDELTA",
    "dEPSILONeWITH DASIAgAND OXIAhVARIAfOXIAfPSILIgAND OXIAhVARIAfTONOSfVARIAdETAeWITH DASIA",
    "gAND OXIAiAND PROSGEGRAMMENIhPERISPOMENIiAND PROSGEGRAMMENIhPROSGEGRAMMENIhVARIA",
    "iAND PROSGEGRAMMENIfOXIAfPROSGEGRAMMENIfPSILIgAND OXIAiAND PROSGEGRAMMENIhPERISPOMENI",
    "iAND PROSGEGRAMMENIhPROSGEGRAMMENIhVARIAiAND PROSGEGRAMMENIfTONOSfVARIAdGAMMAdHETAdIOTA",
    "eWITH DASIAgAND OXIAhPERISPOMENIhVARIAfDIALYTIKAfMACRONfOXIAfPSILIgAND OXIAhPERISPOMENI",
    "hVARIAfTONOSfVARIAfVRACHYdKAPPAdLAMDAdMUdNUdOMEGAeWITH DASIAgAND OXIAiAND PROSGEGRAMMENI",
    "hPERISPOMENIiAND PROSGEGRAMMENIhPROSGEGRAMMENIhVARIAiAND PROSGEGRAMMENIfOXIAfPROSGEGRAMMENI",
    "fPSILIgAND OXIAiAND PROSGEGRAMMENIhPERISPOMENIiAND PROSGEGRAMMENIhPROSGEGRAMMENIhVARIA",
    "iAND PROSGEGRAMMENIfTONOSfVARIAdOMICRONeWITH DASIAgAND OXIAhVARIAfOXIAfPSILIgAND OXIAhVARIA",
    "fTONOSfVARIAdPAMPHYLIAN DIGAMMAdPHIdPIdPSIdRHOeWITH DASIAdSANdSHOdSIGMAdTAUdTHETAdUPSILON",
    "eWITH DASIAgAND OXIAhPERISPOMENIhVARIAfDIALYTIKAfMACRONfOXIAfTONOSfVARIAfVRACHYdXIdYOTdZETA",
    "cLUNATE SIGMA SYMBOLcREVERSED DOTTED LUNATE SIGMA SYMBOLdLUNATE SIGMA SYMBOLcTHETA SYMBOL",
    "bDASIAcAND OXIAdPERISPOMENIdVARIAbDIALYTIKA AND OXIAdPERISPOMENIdVARIAcTONOSbDRACHMA SIGN",
    "bFIVE OBOLS SIGNbFOUR OBOLS SIGNbGRAMMA SIGNbINDICTION SIGNbINSTRUMENTAL NOTATION SYMBOL-1",
    "dSYMBOL-11dSYMBOL-12dSYMBOL-13dSYMBOL-14dSYMBOL-17dSYMBOL-18dSYMBOL-19dSYMBOL-2dSYMBOL-23",
    "dSYMBOL-24dSYMBOL-25dSYMBOL-26dSYMBOL-27dSYMBOL-29dSYMBOL-30dSYMBOL-32dSYMBOL-36dSYMBOL-37",
    "dSYMBOL-38dSYMBOL-39dSYMBOL-4dSYMBOL-40dSYMBOL-42dSYMBOL-43dSYMBOL-45dSYMBOL-47dSYMBOL-48",
    "dSYMBOL-49dSYMBOL-5dSYMBOL-50dSYMBOL-51dSYMBOL-52dSYMBOL-53dSYMBOL-54dSYMBOL-7dSYMBOL-8",
    "bKAI SYMBOLbKAPPA SYMBOLbKORONISbKYATHOS BASE SIGNbLETTER ARCHAIC KOPPAcDIGAMMAcKOPPAcSAMPI",
    "cSMALL CAPITAL GAMMAeLAMDAeOMEGAePIePSIeRHOcSTIGMAcYOTbLITRA SIGNbLOWER NUMERAL SIGN",
    "bLUNATE EPSILON SYMBOLcSIGMA SYMBOLbMETRETES SIGNbMUSICAL LEIMMAbNUMERAL SIGNbOBOL SIGN",
    "bONE HALF SIGNeALTERNATE FORMcQUARTER SIGNbOUNKIA SIGNbOXIAbPERISPOMENIbPHI SYMBOLbPI SYMBOL",
    "bPROSGEGRAMMENIbPSILIcAND OXIAdPERISPOMENIdVARIAbQUESTION MARK",
    "bREVERSED LUNATE EPSILON SYMBOLbRHO SYMBOLcWITH STROKE SYMBOLbSINUSOID SIGN",
    "bSMALL DOTTED LUNATE SIGMA SYMBOLcLETTER ALPHAeWITH DASIAgAND OXIAiAND YPOGEGRAMMENI",
    "hPERISPOMENIiAND YPOGEGRAMMENIhVARIAiAND YPOGEGRAMMENIhYPOGEGRAMMENIfMACRONfOXIA",
    "gAND YPOGEGRAMMENIfPERISPOMENIgAND YPOGEGRAMMENIfPSILIgAND OXIAiAND YPOGEGRAMMENI",
    "hPERISPOMENIiAND YPOGEGRAMMENIhVARIAiAND YPOGEGRAMMENIhYPOGEGRAMMENIfTONOSfVARIA",
    "gAND YPOGEGRAMMENIfVRACHYfYPOGEGRAMMENIdARCHAIC KOPPAeSAMPIdBETAdCHIdDELTAdDIGAMMAdEPSILON",
    "eWITH DASIAgAND OXIAhVARIAfOXIAfPSILIgAND OXIAhVARIAfTONOSfVARIAdETAeWITH DASIAgAND OXIA",
    "iAND YPOGEGRAMMENIhPERISPOMENIiAND YPOGEGRAMMENIhVARIAiAND YPOGEGRAMMENIhYPOGEGRAMMENIfOXIA",
    "gAND YPOGEGRAMMENIfPERISPOMENIgAND YPOGEGRAMMENIfPSILIgAND OXIAiAND YPOGEGRAMMENI",
    "hPERISPOMENIiAND YPOGEGRAMMENIhVARIAiAND YPOGEGRAMMENIhYPOGEGRAMMENIfTONOSfVARIA",
    "gAND YPOGEGRAMMENIfYPOGEGRAMMENIdFINAL SIGMAdGAMMAdHETAdIOTAeWITH DASIAgAND OXIAhPERISPOMENI",
    "hVARIAfDIALYTIKAgAND OXIAhPERISPOMENIhTONOShVARIAfMACRONfOXIAfPERISPOMENIfPSILIgAND OXIA",
    "hPERISPOMENIhVARIAfTONOSfVARIAfVRACHYdKAPPAdKOPPAdLAMDAdMUdNUdOMEGAeWITH DASIAgAND OXIA",
    "iAND YPOGEGRAMMENIhPERISPOMENIiAND YPOGEGRAMMENIhVARIAiAND YPOGEGRAMMENIhYPOGEGRAMMENIfOXIA",
    "gAND YPOGEGRAMMENIfPERISPOMENIgAND YPOGEGRAMMENIfPSILIgAND OXIAiAND YPOGEGRAMMENI",
    "hPERISPOMENIiAND YPOGEGRAMMENIhVARIAiAND YPOGEGRAMMENIhYPOGEGRAMMENIfTONOSfVARIA",
    "gAND YPOGEGRAMMENIfYPOGEGRAMMENIdOMICRONeWITH DASIAgAND OXIAhVARIAfOXIAfPSILIgAND OXIAhVARIA",
    "fTONOSfVARIAdPAMPHYLIAN DIGAMMAdPHIdPIdPSIdRHOeWITH DASIAfPSILIdSAMPIdSANdSHOdSIGMAdSTIGMA",
    "dTAUdTHETAdUPSILONeWITH DASIAgAND OXIAhPERISPOMENIhVARIAfDIALYTIKAgAND OXIAhPERISPOMENI",
    "hTONOShVARIAfMACRONfOXIAfPERISPOMENIfPSILIgAND OXIAhPERISPOMENIhVARIAfTONOSfVARIAfVRACHYdXI",
    "dZETAcREVERSED DOTTED LUNATE SIGMA SYMBOLdLUNATE SIGMA SYMBOLbSUBSCRIPT SMALL LETTER BETA",
    "eCHIeGAMMAePHIeRHObSYMBOL TAU RHObTALENT SIGNbTHETA SYMBOLbTHREE OBOLS SIGNcQUARTERS SIGN",
    "bTONOSbTRYBLION BASE SIGNbTWO OBOLS SIGNcTHIRDS SIGNbUPSILON WITH ACUTE AND HOOK SYMBOL",
    "dDIAERESIS AND HOOK SYMBOLdHOOK SYMBOLbVARIAbVOCAL NOTATION SYMBOL-1dSYMBOL-10dSYMBOL-11",
    "dSYMBOL-12dSYMBOL-13dSYMBOL-14dSYMBOL-15dSYMBOL-16dSYMBOL-17dSYMBOL-18dSYMBOL-19dSYMBOL-2",
    "dSYMBOL-20dSYMBOL-21dSYMBOL-22dSYMBOL-23dSYMBOL-24dSYMBOL-3dSYMBOL-4dSYMBOL-5dSYMBOL-50",
    "dSYMBOL-51dSYMBOL-52dSYMBOL-53dSYMBOL-54dSYMBOL-6dSYMBOL-7dSYMBOL-8dSYMBOL-9bXESTES SIGN",
    "bYEAR SIGNbYPOGEGRAMMENIbZERO SIGNaGREEN APPLEbBOOKbHEARTbSALADaGRIMACING FACE",
    "aGRINNING CAT FACE WITH SMILING EYESbFACEcWITH ONE LARGE AND ONE SMALL EYEdSMILING EYES",
    "dSTAR EYESaGROUP MARKbSEPARATORaGROWING HEARTaGSaGUARANI SIGNaGUARDSMANaGUIDE DOGaGUITAR",
    "aGUJARATI ABBREVIATION SIGNbDIGIT EIGHTcFIVEcFOURcNINEcONEcSEVENcSIXcTHREEcTWOcZERObLETTER A",
    "cAAcAIcAUcBAcBHAcCAcCHAcDAcDDAcDDHAcDHAcEcGAcGHAcHAcIcIIcJAcJHAcKAcKHAcLAcLLAcMAcNAcNGAcNNA",
    "cNYAcOcPAcPHAcRAcSAcSHAcSSAcTAcTHAcTTAcTTHAcUcUUcVAcVOCALIC LdLLdRdRRcYAcZHAbOMbRUPEE SIGN",
    "bSIGN ANUSVARAcAVAGRAHAcCANDRABINDUcCIRCLE NUKTA ABOVEcMADDAHcNUKTAcSHADDAcSUKUN",
    "cTHREE-DOT NUKTA ABOVEcTWO-CIRCLE NUKTA ABOVEcVIRAMAcVISARGAbVOWEL CANDRA EdOcSIGN AAdAIdAU",
    "dCANDRA EeOdEdIdIIdOdUdUUdVOCALIC LeLLeReRRaGUNJALA GONDI DIGIT EIGHTdFIVEdFOURdNINEdONE",
    "dSEVENdSIXdTHREEdTWOdZEROcLETTER AdAAdAIdAUdBAdBHAdCAdCHAdDAdDDAdDDHAdDHAdEEdGAdGHAdHAdIdII",
    "dJAdJHAdKAdKHAdLAdLLAdMAdNAdNGAdOOdPAdPHAdRAdSAdTAdTHAdTTAdTTHAdUdUUdVAdYAcOMcSIGN ANUSVARA",
    "dVISARGAcVIRAMAcVOWEL SIGN AAeAIeAUeEEeIeIIeOOeUeUUaGURMUKHI ABBREVIATION SIGNbADDAK",
    "bDIGIT EIGHTcFIVEcFOURcNINEcONEcSEVENcSIXcTHREEcTWOcZERObEK ONKARbIRIbLETTER AcAAcAIcAUcBA",
    "cBHAcCAcCHAcDAcDDAcDDHAcDHAcEEcFAcGAcGHAcGHHAcHAcIcIIcJAcJHAcKAcKHAcKHHAcLAcLLAcMAcNAcNGA",
    "cNNAcNYAcOOcPAcPHAcRAcRRAcSAcSHAcTAcTHAcTTAcTTHAcUcUUcVAcYAcZAbSIGN ADAK BINDIcBINDIcNUKTA",
    "cUDAATcVIRAMAcVISARGAcYAKASHbTIPPIbURAbVOWEL SIGN AAdAIdAUdEEdIdIIdOOdUdUU"]

end Jet.Text.CharacterName
