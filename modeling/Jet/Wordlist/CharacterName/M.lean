/-!
# Names of characters: M

The names that begin with the letter M, in order.  A small letter stands in front of
each name and says how many words the name shares with the one before, `a` for none; only the other
words are given.
-/

namespace Jet.Text.CharacterName

/-- The names that begin with the letter M. -/
def namesM : List String :=
  ["aMACRONaMAGEaMAGIC WANDaMAGNETaMAHAJANI ABBREVIATION SIGNbLETTER AcBAcBHAcCAcCHAcDAcDDAcDDHA",
    "cDHAcEcGAcGHAcHAcIcJAcJHAcKAcKHAcLAcMAcNAcNNAcNYAcOcPAcPHAcRAcRRAcSAcTAcTHAcTTAcTTHAcUcVA",
    "bLIGATURE SHRIbSECTION MARKbSIGN NUKTAaMAHJONG TILE AUTUMNcBACKcBAMBOOcCHRYSANTHEMUM",
    "cEAST WINDcEIGHT OF BAMBOOSeCHARACTERSeCIRCLEScFIVE OF BAMBOOSeCHARACTERSeCIRCLES",
    "cFOUR OF BAMBOOSeCHARACTERSeCIRCLEScGREEN DRAGONcJOKERcNINE OF BAMBOOSeCHARACTERSeCIRCLES",
    "cNORTH WINDcONE OF BAMBOOSeCHARACTERSeCIRCLEScORCHIDcPLUMcRED DRAGONcSEVEN OF BAMBOOS",
    "eCHARACTERSeCIRCLEScSIX OF BAMBOOSeCHARACTERSeCIRCLEScSOUTH WINDcSPRINGcSUMMER",
    "cTHREE OF BAMBOOSeCHARACTERSeCIRCLEScTWO OF BAMBOOSeCHARACTERSeCIRCLEScWEST WIND",
    "cWHITE DRAGONcWINTERaMAKASAR ANGKAbEND OF SECTIONbLETTER AcBAcCAcDAcGAcJAcKAcLAcMAcNAcNGA",
    "cNYAcPAcRAcSAcTAcVAcYAbPASSIMBANGbVOWEL SIGN EdIdOdUaMALAYALAM AU LENGTH MARKbDATE MARK",
    "bDIGIT EIGHTcFIVEcFOURcNINEcONEcSEVENcSIXcTHREEcTWOcZERObFRACTION ONE EIGHTHdFIFTHdFORTIETH",
    "dHALFdONE-HUNDRED-AND-SIXTIETHdQUARTERdSIXTEENTHdTENTHdTWENTIETHcTHREE EIGHTIETHSdQUARTERS",
    "dSIXTEENTHSdTWENTIETHSbLETTER AcAAcAIcARCHAIC IIcAUcBAcBHAcCAcCHAcCHILLU KdLdLLdLLLdMdNdNN",
    "dRRdYcDAcDDAcDDHAcDHAcDOT REPHcEcEEcGAcGHAcHAcIcIIcJAcJHAcKAcKHAcLAcLLAcLLLAcMAcNAcNGAcNNA",
    "cNNNAcNYAcOcOOcPAcPHAcRAcRRAcSAcSHAcSSAcTAcTHAcTTAcTTHAcTTTAcUcUUcVAcVEDIC ANUSVARA",
    "cVOCALIC LdLLdRdRRcYAbNUMBER ONE HUNDREDdTHOUSANDcTENbSIGN ANUSVARAcAVAGRAHAcCANDRABINDU",
    "cCIRCULAR VIRAMAcCOMBINING ANUSVARA ABOVEcPARAcVERTICAL BAR VIRAMAcVIRAMAcVISARGA",
    "bVOWEL SIGN AAdAIdAUdEdEEdIdIIdOdOOdUdUUdVOCALIC LeLLeReRRaMALE AND FEMALE SIGNbSIGN",
    "bWITH STROKE AND MALE AND FEMALE SIGNdSIGNaMALTESE CROSSaMAMMOTHaMANbAND WOMAN HOLDING HANDS",
    "bDANCINGbIN BUSINESS SUIT LEVITATINGcTUXEDObWITH GUA PI MAOcTURBANaMANAT SIGN",
    "aMANDAIC AFFRICATION MARKbGEMINATION MARKbLETTER ABcADcAGcAHcAINcAKcAKSAcALcAMcANcAPcAQcAR",
    "cAScASHcASZcATcATTcAZcDUSHENNAcHALQAcINcITcKADcUSHENNAbPUNCTUATIONbVOCALIZATION MARKaMANGO",
    "aMANICHAEAN ABBREVIATION MARK ABOVEdBELOWbLETTER AAYINcALEPHcAYINcBETHcBHETHcDALETHcDHAMEDH",
    "cFEcGHIMELcGIMELcHEcHETHcJAYINcJHAYINcKAPHcKHAPHcLAMEDHcMEMcNUNcPEcQHOPHcQOPHcRESHcSADHE",
    "cSAMEKHcSHINcSSHINcTAWcTETHcTHAMEDHcWAWcXAPHcXOPHcYODHcZAYINcZHAYINbNUMBER FIVEcONEdHUNDRED",
    "cTENcTWENTYbPUNCTUATION DOTdWITHIN DOTcDOUBLE DOT WITHIN DOTcFLEURONcLINE FILLERcSTAR",
    "cTWO DOTSbSIGN UDaMANS SHOEaMANTELPIECE CLOCKaMANUAL WHEELCHAIRaMAP SYMBOL FOR LIGHTHOUSE",
    "aMAPLE LEAFaMARCHEN HEAD MARKbLETTER -AcAcBAcCAcCHAcDAcDZAcGAcHAcJAcKAcKHAcLAcMAcNAcNGAcNYA",
    "cPAcPHAcRAcSAcSHAcTAcTHAcTSAcTSHAcWAcYAcZAcZHAbMARK SHADbSIGN ANUSVARAcCANDRABINDU",
    "bSUBJOINED LETTER AdBAdCAdCHAdDAdDZAdGAdHAdJAdKAdKHAdLAdMAdNAdNGAdNYAdPAdPHAdRAdSAdSHAdTA",
    "dTHAdTSAdTSHAdWAdYAdZAdZHAbVOWEL SIGN AAdEdIdOdUaMARRIAGE SYMBOLaMARTIAL ARTS UNIFORM",
    "aMASARAM GONDI DIGIT EIGHTdFIVEdFOURdNINEdONEdSEVENdSIXdTHREEdTWOdZEROcLETTER AdAAdAIdAUdBA",
    "dBHAdCAdCHAdDAdDDAdDDHAdDHAdEdGAdGHAdHAdIdIIdJAdJHAdJNYAdKAdKHAdKSSAdLAdLLAdMAdNAdNGAdNNA",
    "dNYAdOdPAdPHAdRAdSAdSHAdSSAdTAdTHAdTRAdTTAdTTHAdUdUUdVAdYAcRA-KARAcREPHAcSIGN ANUSVARA",
    "dCANDRAdHALANTAdNUKTAdVISARGAcVIRAMAcVOWEL SIGN AAeAIeAUeEeIeIIeOeUeUUeVOCALIC R",
    "aMASCULINE ORDINAL INDICATORaMASK WORK SYMBOLaMASU MARKaMATE DRINK",
    "aMATHEMATICAL BOLD CAPITAL AdALPHAdBdBETAdCdCHIdDdDELTAdDIGAMMAdEdEPSILONdETAdFdGdGAMMAdHdI",
    "dIOTAdJdKdKAPPAdLdLAMDAdMdMUdNdNUdOdOMEGAdOMICRONdPdPHIdPIdPSIdQdRdRHOdSdSIGMAdTdTAUdTHETA",
    "eSYMBOLdUdUPSILONdVdWdXdXIdYdZdZETAcDIGIT EIGHTdFIVEdFOURdNINEdONEdSEVENdSIXdTHREEdTWOdZERO",
    "cEPSILON SYMBOLcFRAKTUR CAPITAL AeBeCeDeEeFeGeHeIeJeKeLeMeNeOePeQeReSeTeUeVeWeXeYeZdSMALL A",
    "eBeCeDeEeFeGeHeIeJeKeLeMeNeOePeQeReSeTeUeVeWeXeYeZcITALIC CAPITAL AeALPHAeBeBETAeCeCHIeD",
    "eDELTAeEeEPSILONeETAeFeGeGAMMAeHeIeIOTAeJeKeKAPPAeLeLAMDAeMeMUeNeNUeOeOMEGAeOMICRONePePHIePI",
    "ePSIeQeReRHOeSeSIGMAeTeTAUeTHETAfSYMBOLeUeUPSILONeVeWeXeXIeYeZeZETAdEPSILON SYMBOL",
    "dKAPPA SYMBOLdNABLAdPARTIAL DIFFERENTIALdPHI SYMBOLdPI SYMBOLdRHO SYMBOLdSMALL AeALPHAeB",
    "eBETAeCeCHIeDeDELTAeEeEPSILONeETAeFeFINAL SIGMAeGeGAMMAeHeIeIOTAeJeKeKAPPAeLeLAMDAeMeMUeNeNU",
    "eOeOMEGAeOMICRONePePHIePIePSIeQeReRHOeSeSIGMAeTeTAUeTHETAeUeUPSILONeVeWeXeXIeYeZeZETA",
    "dTHETA SYMBOLcKAPPA SYMBOLcNABLAcPARTIAL DIFFERENTIALcPHI SYMBOLcPI SYMBOLcRHO SYMBOL",
    "cSCRIPT CAPITAL AeBeCeDeEeFeGeHeIeJeKeLeMeNeOePeQeReSeTeUeVeWeXeYeZdSMALL AeBeCeDeEeFeGeHeI",
    "eJeKeLeMeNeOePeQeReSeTeUeVeWeXeYeZcSMALL AdALPHAdBdBETAdCdCHIdDdDELTAdDIGAMMAdEdEPSILONdETA",
    "dFdFINAL SIGMAdGdGAMMAdHdIdIOTAdJdKdKAPPAdLdLAMDAdMdMUdNdNUdOdOMEGAdOMICRONdPdPHIdPIdPSIdQdR",
    "dRHOdSdSIGMAdTdTAUdTHETAdUdUPSILONdVdWdXdXIdYdZdZETAcTHETA SYMBOLbDOUBLE-STRUCK CAPITAL AdB",
    "dDdEdFdGdIdJdKdLdMdOdSdTdUdVdWdXdYcDIGIT EIGHTdFIVEdFOURdNINEdONEdSEVENdSIXdTHREEdTWOdZERO",
    "cSMALL AdBdCdDdEdFdGdHdIdJdKdLdMdNdOdPdQdRdSdTdUdVdWdXdYdZbFALLING DIAGONAL",
    "bFRAKTUR CAPITAL AdBdDdEdFdGdJdKdLdMdNdOdPdQdSdTdUdVdWdXdYcSMALL AdBdCdDdEdFdGdHdIdJdKdLdMdN",
    "dOdPdQdRdSdTdUdVdWdXdYdZbITALIC CAPITAL AdALPHAdBdBETAdCdCHIdDdDELTAdEdEPSILONdETAdFdGdGAMMA",
    "dHdIdIOTAdJdKdKAPPAdLdLAMDAdMdMUdNdNUdOdOMEGAdOMICRONdPdPHIdPIdPSIdQdRdRHOdSdSIGMAdTdTAU",
    "dTHETAeSYMBOLdUdUPSILONdVdWdXdXIdYdZdZETAcEPSILON SYMBOLcKAPPA SYMBOLcNABLA",
    "cPARTIAL DIFFERENTIALcPHI SYMBOLcPI SYMBOLcRHO SYMBOLcSMALL AdALPHAdBdBETAdCdCHIdDdDELTA",
    "dDOTLESS IeJdEdEPSILONdETAdFdFINAL SIGMAdGdGAMMAdIdIOTAdJdKdKAPPAdLdLAMDAdMdMUdNdNUdOdOMEGA",
    "dOMICRONdPdPHIdPIdPSIdQdRdRHOdSdSIGMAdTdTAUdTHETAdUdUPSILONdVdWdXdXIdYdZdZETAcTHETA SYMBOL",
    "bLEFT ANGLE BRACKETcDOUBLE ANGLE BRACKETcFLATTENED PARENTHESIScWHITE SQUARE BRACKET",
    "dTORTOISE SHELL BRACKETbMONOSPACE CAPITAL AdBdCdDdEdFdGdHdIdJdKdLdMdNdOdPdQdRdSdTdUdVdWdXdY",
    "dZcDIGIT EIGHTdFIVEdFOURdNINEdONEdSEVENdSIXdTHREEdTWOdZEROcSMALL AdBdCdDdEdFdGdHdIdJdKdLdMdN",
    "dOdPdQdRdSdTdUdVdWdXdYdZbRIGHT ANGLE BRACKETcDOUBLE ANGLE BRACKETcFLATTENED PARENTHESIS",
    "cWHITE SQUARE BRACKETdTORTOISE SHELL BRACKETbRISING DIAGONALbSANS-SERIF BOLD CAPITAL AeALPHA",
    "eBeBETAeCeCHIeDeDELTAeEeEPSILONeETAeFeGeGAMMAeHeIeIOTAeJeKeKAPPAeLeLAMDAeMeMUeNeNUeOeOMEGA",
    "eOMICRONePePHIePIePSIeQeReRHOeSeSIGMAeTeTAUeTHETAfSYMBOLeUeUPSILONeVeWeXeXIeYeZeZETA",
    "dDIGIT EIGHTeFIVEeFOUReNINEeONEeSEVENeSIXeTHREEeTWOeZEROdEPSILON SYMBOLdITALIC CAPITAL A",
    "fALPHAfBfBETAfCfCHIfDfDELTAfEfEPSILONfETAfFfGfGAMMAfHfIfIOTAfJfKfKAPPAfLfLAMDAfMfMUfNfNUfO",
    "fOMEGAfOMICRONfPfPHIfPIfPSIfQfRfRHOfSfSIGMAfTfTAUfTHETAgSYMBOLfUfUPSILONfVfWfXfXIfYfZfZETA",
    "eEPSILON SYMBOLeKAPPA SYMBOLeNABLAePARTIAL DIFFERENTIALePHI SYMBOLePI SYMBOLeRHO SYMBOL",
    "eSMALL AfALPHAfBfBETAfCfCHIfDfDELTAfEfEPSILONfETAfFfFINAL SIGMAfGfGAMMAfHfIfIOTAfJfKfKAPPAfL",
    "fLAMDAfMfMUfNfNUfOfOMEGAfOMICRONfPfPHIfPIfPSIfQfRfRHOfSfSIGMAfTfTAUfTHETAfUfUPSILONfVfWfXfXI",
    "fYfZfZETAeTHETA SYMBOLdKAPPA SYMBOLdNABLAdPARTIAL DIFFERENTIALdPHI SYMBOLdPI SYMBOL",
    "dRHO SYMBOLdSMALL AeALPHAeBeBETAeCeCHIeDeDELTAeEeEPSILONeETAeFeFINAL SIGMAeGeGAMMAeHeIeIOTA",
    "eJeKeKAPPAeLeLAMDAeMeMUeNeNUeOeOMEGAeOMICRONePePHIePIePSIeQeReRHOeSeSIGMAeTeTAUeTHETAeU",
    "eUPSILONeVeWeXeXIeYeZeZETAdTHETA SYMBOLcCAPITAL AdBdCdDdEdFdGdHdIdJdKdLdMdNdOdPdQdRdSdTdUdV",
    "dWdXdYdZcDIGIT EIGHTdFIVEdFOURdNINEdONEdSEVENdSIXdTHREEdTWOdZEROcITALIC CAPITAL AeBeCeDeEeF",
    "eGeHeIeJeKeLeMeNeOePeQeReSeTeUeVeWeXeYeZdSMALL AeBeCeDeEeFeGeHeIeJeKeLeMeNeOePeQeReSeTeUeVeW",
    "eXeYeZcSMALL AdBdCdDdEdFdGdHdIdJdKdLdMdNdOdPdQdRdSdTdUdVdWdXdYdZbSCRIPT CAPITAL AdCdDdGdJdK",
    "dNdOdPdQdSdTdUdVdWdXdYdZcSMALL AdBdCdDdFdHdIdJdKdLdMdNdPdQdRdSdTdUdVdWdXdYdZaMAXIMIZE",
    "aMAYAN NUMERAL EIGHTcEIGHTEENcELEVENcFIFTEENcFIVEcFOURcFOURTEENcNINEcNINETEENcONEcSEVEN",
    "cSEVENTEENcSIXcSIXTEENcTENcTHIRTEENcTHREEcTWELVEcTWOcZEROaMEASURED ANGLEcOPENING LEFT",
    "cWITH OPEN ARM ENDING IN ARROW POINTING DOWN AND LEFTlRIGHTjLEFT AND DOWNlUPjRIGHT AND DOWN",
    "lUPjUP AND LEFTlRIGHTbBYbRIGHT ANGLE WITH DOTaMEAT ON BONEaMECHANICAL ARMbLEG",
    "aMEDEFAIDRIN CAPITAL LETTER AdAIdATIUdBdCdDdEdFdGdHdHPdIdJdKdKPdLdMdNdNGdNYdOdOEdPdQdRdSdTdU",
    "dVdWdXdYdYUdZbCOMMAbDIGIT EIGHTcFIVEcFOURcNINEcONEdALTERNATE FORMcSEVENcSIXcTHREE",
    "dALTERNATE FORMcTWOdALTERNATE FORMcZERObEXCLAMATION OHbFULL STOPbNUMBER EIGHTEENcELEVEN",
    "cFIFTEENcFOURTEENcNINETEENcSEVENTEENcSIXTEENcTENcTHIRTEENcTWELVEbSMALL LETTER AdAIdATIUdBdC",
    "dDdEdFdGdHdHPdIdJdKdKPdLdMdNdNGdNYdOdOEdPdQdRdSdTdUdVdWdXdYdYUdZbSYMBOL AIVAaMEDIEVAL COMMA",
    "bEXCLAMATION MARKbQUESTION MARKaMEDIUM BLACK CIRCLEbBOLD WHITE CIRCLE",
    "bEIGHT POINTED BLACK STARcSPOKED ASTERISKbFIVE SPOKED ASTERISK",
    "bFLATTENED LEFT PARENTHESIS ORNAMENTcRIGHT PARENTHESIS ORNAMENTbFOUR POINTED BLACK STAR",
    "dPINWHEEL STARbGREEK CROSSbLEFT CURLY BRACKET ORNAMENTcPARENTHESIS ORNAMENT",
    "bLEFT-POINTING ANGLE BRACKET ORNAMENTbMATHEMATICAL SPACEbRIGHT CURLY BRACKET ORNAMENT",
    "cPARENTHESIS ORNAMENTbRIGHT-POINTING ANGLE BRACKET ORNAMENTbSALTIREbSHADE",
    "bSIX POINTED BLACK STARcSPOKED ASTERISKbSMALL WHITE CIRCLEbTHREE POINTED BLACK STAR",
    "dPINWHEEL STARbVERTICAL BARbWHITE CIRCLEcSQUAREaMEETEI MAYEK AHANG KHUDAMcANJIcAPUN IYEK",
    "cCHEIKHANcCHEIKHEIcDIGIT EIGHTdFIVEdFOURdNINEdONEdSEVENdSIXdTHREEdTWOdZEROcLETTER ATIYAdBA",
    "dBHAMdCHAdCHILdDDAdDDHAdDHOUdDILdEdGHOUdGOKdHUKdIeLONSUMdJHAMdJILdKHOUdKOKeLONSUMdLAIeLONSUM",
    "dMITeLONSUMdNAeLONSUMdNGOUeLONSUMdNNAdNYAdOdPAeLONSUMdPHAMdRAIdSAMdSHAdSSAdTHOUdTILeLONSUM",
    "dTTAdTTHAdUNdWAIdYANGcLUM IYEKcSYLLABLE REPETITION MARKcVIRAMAcVOWEL SIGN AAIeAAUeANAPeAU",
    "eCHEINAPeIIeINAPeNUNGeONAPeSOUNAPeUNAPeUUeVISARGAeYENAPcWORD REPETITION MARKaMELON",
    "aMELTING FACEaMEMOaMENDE KIKAKUI COMBINING NUMBER HUNDRED THOUSANDSeHUNDREDSeMILLIONSeTEENS",
    "eTEN THOUSANDSeTENSeTHOUSANDScDIGIT EIGHTdFIVEdFOURdNINEdONEdSEVENdSIXdTHREEdTWO",
    "cSYLLABLE M001 KIdM002 KAdM003 KUdM004 WIdM005 WAdM006 WUdM007 MINdM008 MANdM009 MUNdM010 BI",
    "dM011 BAdM012 BUdM013 IdM014 AdM015 UdM016 DIdM017 DAdM018 DUdM019 SIdM020 SAdM021 SU",
    "dM022 TIdM023 TAdM024 TUdM025 LIdM026 LAdM027 LUdM028 JIdM029 JAdM030 JUdM031 YIdM032 YA",
    "dM033 YUdM034 FIdM035 FAdM036 FUdM037 NINdM038 NANdM039 NUNdM040 HEEdM041 HAdM042 HOO",
    "dM043 NGGAdM044 KPEEdM045 WOdM046 HUANdM047 MBEEdM048 KOdM049 WVAdM050 PUdM051 PEdM052 HEN",
    "dM053 HINdM054 LOOdM055 TEdM056 GBAdM057 NGONdM058 NYANdM059 MENdM060 NYONdM061 WVIdM062 MBA",
    "dM063 JOdM064 NDOdM065 KEEdM066 POdM067 NDOOdM068 PIdM069 TOdM070 GBOdM071 GBOOdM072 MBE",
    "dM073 LEdM074 KPUdM075 FEdM076 KOOdM077 VOdM078 FEEdM079 SOdM080 YEdM081 PEEdM082 NGGU",
    "dM083 HEEIdM084 LEEdM085 VEdM086 LONG NGGEdM087 HUNdM088 FOdM089 DEEdM090 NGGIdM091 TEE",
    "dM092 KPAdM093 GBEEdM094 MONdM095 KEdM096 HEdM097 BEdM098 NYENdM099 PAdM100 EdM101 FAN",
    "dM102 POOdM103 BOOdM104 TOOdM105 LONG MBOOdM106 LONG NGGOOdM107 GBEdM108 KPEdM109 YEE",
    "dM110 LONG LEdM111 GAdM112 KPOOdM113 JEdM114 WOOdM115 NGGEEdM116 SEdM117 NENdM118 WE",
    "dM119 NDEdM120 NGGOdM121 YOdM122 MBUdM123 NDIdM124 GBIdM125 NDUdM126 WEEdM127 NGGUA",
    "dM128 HOOUdM129 NDAdM130 HANdM131 INdM132 KPIdM133 FOOdM134 NJOOdM135 INdM136 SOOdM137 EI",
    "dM138 BOdM139 WVEdM140 HOdM141 YOOdM142 LONG MBOdM143 WEIdM144 VOOdM145 MBIdM146 NGGEdM147 O",
    "dM148 GBUdM149 NJEEdM150 BEEdM151 VUdM152 NJAdM153 LOdM154 MUANdM155 GIdM156 NGGOOdM157 JEE",
    "dM158 KPOdM159 NGGAAdM160 JOOdM161 LONG MBEdM162 SEEdM163 EEdM164 NYINdM165 OOdM166 GUEI",
    "dM167 GUANdM168 GUdM169 NONdM170 NYUNdM171 RAdM172 MBOOdM173 VEEdM174 MBOdM175 LONG JO",
    "dM176 HIdM177 NGUANdM178 ENdM179 KUAdM180 DOOdM181 DOdM182 VIdM183 LONG NGGOdM184 NGEN",
    "dM185 VAdM186 HUdM187 MBUUdM188 MBEEdM189 MUENdM190 GEEdM191 NDEEdM192 NJUdM193 HONdM194 WUI",
    "dM195 ANdM196 SIAdM197 FUAaMENORAH WITH NINE BRANCHESaMENS SYMBOLaMERCURY",
    "aMEROITIC CURSIVE FRACTION EIGHT TWELFTHSdELEVEN TWELFTHSdFIVE TWELFTHSdFOUR TWELFTHS",
    "dNINE TWELFTHSdONE HALFeTWELFTHdSEVEN TWELFTHSdSIX TWELFTHSdTEN TWELFTHSdTHREE TWELFTHS",
    "dTWO TWELFTHScLETTER AdARCHAIC SAdBAdDAdEdHHAdIdKAdKHAdLAdMAdNAdNEdOdPAdQAdRAdSAdSEdTAdTEdTO",
    "dWAdYAcLOGOGRAM IMNdRMTcNUMBER EIGHTeHUNDREDfTHOUSANDeTHOUSANDdEIGHTY THOUSANDdFIFTY",
    "eTHOUSANDdFIVEeHUNDREDfTHOUSANDeTHOUSANDdFORTYeTHOUSANDdFOUReHUNDREDfTHOUSANDeTHOUSANDdNINE",
    "eHUNDREDfTHOUSANDeTHOUSANDdNINETY THOUSANDdONEeHUNDREDfTHOUSANDeTHOUSANDdSEVENeHUNDRED",
    "fTHOUSANDeTHOUSANDdSEVENTYeTHOUSANDdSIXeHUNDREDfTHOUSANDeTHOUSANDdSIXTYeTHOUSANDdTEN",
    "eTHOUSANDdTHIRTYeTHOUSANDdTHREEeHUNDREDfTHOUSANDeTHOUSANDdTWENTYeTHOUSANDdTWOeHUNDRED",
    "fTHOUSANDeTHOUSANDbHIEROGLYPHIC LETTER AdBAdBA-2dDAdEdHHAdIdKAdKHAdLAdMAdNAdNA-2dNEdNE-2dO",
    "dPAdQAdRAdRA-2dSAdSA-2dSEdTAdTA-2dTEdTE-2dTOdWAdYAcSYMBOL VIDJdVIDJ-2aMERPERSON",
    "aMESSAGE WAITINGaMETRICAL BREVEbLONG OVER SHORTdTWO SHORTSbPENTASEMEbSHORT OVER LONG",
    "bTETRASEMEbTRISEMEbTWO SHORTS JOINEDdOVER LONGaMETROaMIAO LETTER AHcARCHAIC MAdNAdNGAdZZAcBA",
    "cBRIcDAcDDAcDLHAcDLHYAcDZAcDZHAcDZYIcDZZAcFAcGAcGHAcGHHAcHAcHHAcKAcLAcLHAcLHYAcLYAcMAcMHAcNA",
    "cNASALIZATIONcNGAcNGHAcNHAcNNAcNNHAcNYAcNYHAcPAcPLAcQAcQGAcREFORMED TONE-1dTONE-2dTONE-4",
    "dTONE-5dTONE-6dTONE-8dTSHAcRTEcSAcSHAcSSAcSYIcTAcTEcTLHAcTLHYAcTONE-2cTONE-3cTONE-4cTONE-5",
    "cTONE-6cTONE-7cTONE-8cTSAcTSEcTSHAcTSSAcTTAcVAcVFAcWAcXAcYI DZHAdKAdNNAdPAdTAdTSAdTSHAdTTA",
    "cZAcZHAcZSAcZSHAcZZAcZZSAcZZSYAcZZYAbSIGN ASPIRATIONcCONSONANT MODIFIER BAR",
    "cREFORMED ASPIRATIONdVOICINGbTONE ABOVEcBELOWcRIGHTcTOP RIGHTbVOWEL SIGN AdAAdAEdAEEdAHHdAI",
    "dANdANGdAUdEdEAdEIdENdENGdERdERRdIdIAdIANdIANGdIEdIGdIIdINGdIOdIONGdIUdNdNGdOdOERdOEYdOGdOO",
    "dOUdROUNDED EReERRdUdUAdUANdUANGdUEIdUIdUNGdUOGdUUdVWdWdWOdYdYIdYUIaMICR DASH SYMBOL",
    "bON US SYMBOLaMICRO SIGNaMICROBEaMICROPHONEaMICROSCOPEaMIDDLE DOT",
    "bTHIRD WHITE RIGHT POINTING INDEXaMIDLINE HORIZONTAL ELLIPSISaMILITARY HELMETbMEDAL",
    "aMILKY WAYaMILL SIGNaMINIBUSaMINIDISCaMINIMIZEaMINUS SIGNcIN TRIANGLEcWITH COMMA ABOVE",
    "dDOT BELOWdFALLING DOTSdRISING DOTSbTILDEaMINUS-OR-PLUS SIGNaMINYaMIRRORbBALLaMMSP",
    "aMOBILE PHONEcOFFcWITH RIGHTWARDS ARROW AT LEFTaMODELSaMODERN PENTATHLON",
    "aMODI ABBREVIATION SIGNbDANDAbDIGIT EIGHTcFIVEcFOURcNINEcONEcSEVENcSIXcTHREEcTWOcZERO",
    "bDOUBLE DANDAbLETTER AcAAcAIcAUcBAcBHAcCAcCHAcDAcDDAcDDHAcDHAcEcGAcGHAcHAcIcIIcJAcJHAcKAcKHA",
    "cLAcLLAcMAcNAcNGAcNNAcNYAcOcPAcPHAcRAcSAcSHAcSSAcTAcTHAcTTAcTTHAcUcUUcVAcVOCALIC LdLLdRdRR",
    "cYAbSIGN ANUSVARAcARDHACANDRAcHUVAcVIRAMAcVISARGAbVOWEL SIGN AAdAIdAUdEdIdIIdOdUdUU",
    "dVOCALIC LeLLeReRRaMODIFIER BREVE WITH INVERTED BREVEbLETTER ACUTE ACCENTcALVEOLAR CLICK",
    "cAPOSTROPHEcBEGIN HIGH TONEdLOW TONEcBILABIAL CLICKcCAPITAL AdAEdBdBARRED BdCdDdEdFdGdH",
    "eWITH STROKEdIdJdKdLdMdNdOdOUdPdQdRdREVERSED EeNdTdUdVdWcCENTRED LEFT HALF RING",
    "dRIGHT HALF RINGcCHINESE TONE YANG PINGfQUfRUfSHANGeYIN PINGfQUfRUfSHANGcCIRCUMFLEX ACCENT",
    "cCOLONcCROSS ACCENTcCYRILLIC ENdHARD SIGNdSOFT SIGNcDENTAL CLICKcDOT HORIZONTAL BARdSLASH",
    "dVERTICAL BARcDOUBLE APOSTROPHEdPRIMEcDOWN ARROWHEADdTACKcEND HIGH TONEdLOW TONE",
    "cEXTRA-HIGH DOTTED LEFT-STEM TONE BAReTONE BARdLEFT-STEM TONE BARdTONE BAR",
    "cEXTRA-LOW DOTTED LEFT-STEM TONE BAReTONE BARdLEFT-STEM TONE BARdTONE BARcGEORGIAN NAR",
    "cGLOTTAL STOPeWITH STROKEcGRAVE ACCENTcHALF TRIANGULAR COLONcHIGH DOTTED LEFT-STEM TONE BAR",
    "eTONE BARdLEFT-STEM TONE BARdTONE BARcLATERAL CLICKcLEFT ARROWHEADdHALF RINGdTACK",
    "cLOW ACUTE ACCENTdCIRCUMFLEX ACCENTdDOTTED LEFT-STEM TONE BAReTONE BARdDOWN ARROWHEAD",
    "dGRAVE ACCENTdINVERTED EXCLAMATION MARKdLEFT ARROWeARROWHEADdLEFT-STEM TONE BARdMACRON",
    "dRIGHT ARROWHEADdRINGdTILDEdTONE BARdUP ARROWHEADdVERTICAL LINEcLOWER RIGHT CORNER ANGLE",
    "cMACRONcMID DOTTED LEFT-STEM TONE BAReTONE BARdLEFT-STEM TONE BARdTONE BAR",
    "cMIDDLE DOUBLE ACUTE ACCENTeGRAVE ACCENTdGRAVE ACCENTcMINUS SIGNcOPEN SHELFcPLUS SIGNcPRIME",
    "cRAISED COLONdDOWN ARROWdEXCLAMATION MARKdINVERTED EXCLAMATION MARKdUP ARROW",
    "cRETROFLEX CLICK WITH RETROFLEX HOOKcREVERSED COMMAdGLOTTAL STOPfWITH STROKEcRHOTIC HOOK",
    "cRIGHT ARROWHEADdHALF RINGdTACKcSHELFcSHORT EQUALS SIGNcSMALL AdAEdAINdALPHAdBeWITH HOOK",
    "dBARRED OdBETAdBOTTOM HALF OdCeWITH CURLdCAPITAL AAeBeGfWITH HOOKeHeIfWITH STROKEeINVERTED R",
    "eLfWITH BELTeNeOEeReUeYdCHIdCLOSED OMEGAeREVERSED OPEN EdDeWITH HOOKgAND TAILfTAILdDELTA",
    "dDEZH DIGRAPHdDOTLESS J WITH STROKEhAND HOOKdDZ DIGRAPHfWITH CURLgRETROFLEX HOOKdEdENGdESH",
    "dETHdEZHdFdFENG DIGRAPHdGeWITH HOOKdGAMMAdGREEK GAMMAePHIdHeWITH HOOKfSTROKEdHENGeWITH HOOK",
    "dI WITH STROKEdIOTAdJeWITH CROSSED-TAILdKdLeWITH BELTfINVERTED LAZY SfMIDDLE TILDE",
    "fPALATAL HOOKfRETROFLEX HOOKhAND BELTdLEZHeWITH RETROFLEX HOOKdLIGATURE OEdLS DIGRAPH",
    "dLZ DIGRAPHdMeWITH HOOKdN WITH LEFT HOOKfRETROFLEX HOOKdOeWITH STROKEdOPEN EeOdPdPHIdQdR",
    "eWITH FISHHOOKfTAILdRAMS HORNdREVERSED EeGLOTTAL STOPeOPEN EdSeWITH CURLfHOOKdSCHWAdSCRIPT G",
    "dSIDEWAYS UdTeWITH PALATAL HOOKfRETROFLEX HOOKdTC DIGRAPH WITH CURLdTESH DIGRAPHdTHETA",
    "dTOP HALF OdTS DIGRAPHfWITH RETROFLEX HOOKdTURNED AeAEeALPHAeHeIeMfWITH LONG LEGeOPEN EeR",
    "fWITH HOOKgLONG LEGiAND RETROFLEX HOOKeVeWeYfWITH BELTdUeBAReWITH LEFT HOOKdUPSILONdV",
    "eWITH HOOKfRIGHT HOOKdWdXdYdZeWITH CURLfRETROFLEX HOOKcSTRESS AND HIGH TONEeLOW TONE",
    "cSUPERSCRIPT HALF TRIANGULAR COLONdTRIANGULAR COLONcTRIANGULAR COLONcTURNED COMMA",
    "cUNASPIRATEDcUP ARROWHEADdTACKcUScVERTICAL LINEcVOICINGcYANG DEPARTING TONE MARK",
    "cYIN DEPARTING TONE MARKaMODULO TWO SUMaMONEY BAGbWITH WINGSaMONEY-MOUTH FACE",
    "aMONGOLIAN BIRGAcWITH DOUBLE ORNAMENTdORNAMENTbCOLONbCOMMAbDIGIT EIGHTcFIVEcFOURcNINEcONE",
    "cSEVENcSIXcTHREEcTWOcZERObDOUBLE BIRGA WITH ORNAMENTbELLIPSISbFOUR DOTS",
    "bFREE VARIATION SELECTOR FOUReONEeTHREEeTWObFULL STOPbINVERTED BIRGAdWITH DOUBLE ORNAMENT",
    "bLETTER AcALI GALI AeAHeANUSVARA ONEeBALUDAeCAeDAeDAGALGAeDAMARUeDDAeHALF UfYAeI",
    "eINVERTED UBADAMAeKAeNGAeNNAePAePHAeSSAeTAeTHREE BALUDAeTTAeTTHAeUBADAMAeVISARGA ONEeZAeZHA",
    "cANGcBAcCHAdWITH TWO DOTScCHIcDAcEcEEcFAcGAcHAAcIcJAcKAcKHAcLAcLHAcMAcMANCHU ALI GALI BHAfCA",
    "fCYAfDDHAfDHAfGHAfJHAfLHAfNGAfSSAfTAfTTAfZAfZHAdFAdIdKAdRAdZHAcNAcOcOEcPAcQAcRAcSAcSHA",
    "cSIBE ANGdCHAdDAdEdFAdGAdGAAdHAdHAAdIdIYdJAdKAdPAdRAAdSHAdTAdTSAdUdUEdZAdZHAcTA",
    "cTODO ALI GALI TAfZHAdANGdBAdCHAdDAdDZAdEdGAdGAAdHAAdIdJAdJIAdKAdLONG VOWEL SIGNdMAdNIAdOdOE",
    "dPAdQAdTAdTSAdUdUEdWAdYAcTSAcUcUEcWAcYAcZAcZHIcZRAbMANCHU COMMAcFULL STOPbNIRUGU",
    "bROTATED BIRGAdWITH DOUBLE ORNAMENTeORNAMENTbSIBE SYLLABLE BOUNDARY MARKERbSWIRL BIRGA",
    "dWITH DOUBLE ORNAMENTeORNAMENTbTODO SOFT HYPHENbTRIPLE BIRGA WITH ORNAMENT",
    "bTURNED SWIRL BIRGA WITH DOUBLE ORNAMENTbVOWEL SEPARATORaMONKEYbFACEaMONOGRAM FOR EARTHcYANG",
    "cYINaMONORAILaMONOSTABLE SYMBOLaMOOD BUBBLEaMOON CAKEbVIEWING CEREMONYaMOSQUEaMOSQUITO",
    "aMOTHER CHRISTMASaMOTOR BOATbSCOOTERaMOTORIZED WHEELCHAIRaMOTORWAYaMOUNT FUJIaMOUNTAIN",
    "bBICYCLISTbCABLEWAYbRAILWAYaMOUSEbFACEbTRAPaMOUTHaMOVIE CAMERAaMOYAIaMRO DANDAbDIGIT EIGHT",
    "cFIVEcFOURcNINEcONEcSEVENcSIXcTHREEcTWOcZERObDOUBLE DANDAbLETTER AcBAcCHUcDAcDAIcEcEAcHAI",
    "cHAOcKEAAEcKHAIcKOcLAcLANcMAEMcMIMcNGIcNINcOcOLcOOcPAcPHIcRIcROcSHIcTAcTEKcTHEAcWAcYO",
    "aMUCH GREATER-THANbLESS-THANaMULTANI LETTER AcBAcBHAcCAcCHAcDAcDDAcDDDAcDDHAcDHAcEcGAcGHAcHA",
    "cIcJAcJJAcKAcKHAcLAcMAcNAcNNAcNYAcPAcPHAcRAcRHAcRRAcSAcTAcTHAcTTAcTTHAcUcVAcYAbSECTION MARK",
    "aMULTIMAPaMULTIPLE MUSICAL NOTESaMULTIPLICATION SIGNcIN DOUBLE CIRCLEdLEFT HALF CIRCLE",
    "dRIGHT HALF CIRCLEdTRIANGLEcWITH DOT ABOVEdUNDERBARbXaMULTISETbMULTIPLICATIONbUNIONaMUSHROOM",
    "aMUSIC FLAT SIGNbNATURAL SIGNbSHARP SIGNaMUSICAL KEYBOARDcWITH JACKSbNOTEbSCORE",
    "bSYMBOL ARPEGGIATO DOWNdUPcBEGIN BEAMdPHRASEdSLURdTIEcBRACEcBRACKETcBREATH MARKcBREVEcBREVIS",
    "dRESTcC CLEFcCAESURAcCIRCLE X NOTEHEADcCLIMACUScCLIVIScCLUSTER NOTEHEAD BLACKeWHITEcCODA",
    "cCOMBINING ACCENTdACCENT-STACCATOdAUGMENTATION DOTdBENDdDOITdDOUBLE TONGUEdDOWN BOWdFLAG-1",
    "dFLAG-2dFLAG-3dFLAG-4dFLAG-5dFLIPdHARMONICdLOUREdMARCATOdMARCATO-STACCATOdRIPdSMEAR",
    "dSNAP PIZZICATOdSPRECHGESANG STEMdSTACCATISSIMOdSTACCATOdSTEMdTENUTOdTREMOLO-1dTREMOLO-2",
    "dTREMOLO-3dTRIPLE TONGUEdUP BOWcCOMMON TIMEcCRESCENDOcCROIXcCUT TIMEcDA CAPOcDAL SEGNOcDAMP",
    "dALLcDASHED BARLINEcDECRESCENDOcDEGREE SLASHcDOUBLE BARLINEdFLATdSHARPcDRUM CLEF-1dCLEF-2",
    "cEIGHTH NOTEdRESTcEND BEAMdOF STIMMEdPHRASEdSLURdTIEcF CLEFeOTTAVA ALTAfBASSAcFERMATAdBELOW",
    "cFINAL BARLINEcFINGERED TREMOLO-1dTREMOLO-2dTREMOLO-3cFIVE-LINE STAFFcFLAT DOWNdUPcFORTE",
    "cFOUR-LINE STAFFcFOUR-STRING FRETBOARDcFUSA BLACKdWHITEcG CLEFeOTTAVA ALTAfBASSA",
    "cGLISSANDO DOWNdUPcGRACE NOTE NO SLASHeSLASHcGREGORIAN C CLEFdF CLEFcHALF NOTEdPEDAL MARK",
    "dRESTcHAUPTSTIMMEcINVERTED TURNcKIEVAN C CLEFdEIGHTH NOTE STEM DOWNgUPdEND OF PIECE",
    "dFINAL NOTEdFLAT SIGNdHALF NOTEdQUARTER NOTE STEM DOWNgUPdRECITATIVE MARKdWHOLE NOTEcKORON",
    "cLEFT REPEAT SIGNcLONGAdIMPERFECTA RESTdPERFECTA RESTcMAXIMAcMEZZOcMINIMAdBLACKdREST",
    "cMOON NOTEHEAD BLACKeWHITEcMULTI RESTcMULTIPLE MEASURE RESTcNATURAL DOWNdUPcNEBENSTIMME",
    "cNOTEHEAD BLACKcNULL NOTEHEADcONE HUNDRED TWENTY-EIGHTH NOTEfRESTcONE-LINE STAFF",
    "cORNAMENT STROKE-1dSTROKE-10dSTROKE-11dSTROKE-2dSTROKE-3dSTROKE-4dSTROKE-5dSTROKE-6dSTROKE-7",
    "dSTROKE-8dSTROKE-9cOTTAVA ALTAdBASSAcPARENTHESIS NOTEHEADcPEDAL MARKdUP MARKcPES SUBPUNCTIS",
    "cPIANOcPLUS NOTEHEADcPODATUScPORRECTUSdFLEXUScQUARTER NOTEdRESTdTONE FLATeSHARP",
    "cQUINDICESIMA ALTAdBASSAcREPEAT DOTScREPEATED FIGURE-1dFIGURE-2dFIGURE-3",
    "cREVERSE FINAL BARLINEcRIGHT REPEAT SIGNcRINFORZANDOcSCANDICUSdFLEXUScSEGNOcSEMIBREVIS BLACK",
    "dRESTdWHITEcSEMIMINIMA BLACKdRESTdWHITEcSHARP DOWNdUPcSHORT BARLINEcSINGLE BARLINE",
    "cSIX-LINE STAFFcSIX-STRING FRETBOARDcSIXTEENTH NOTEdRESTcSIXTY-FOURTH NOTEdRESTcSORI",
    "cSQUARE BdNOTEHEAD BLACKeWHITEcSUBITOcTEMPUS IMPERFECTUM CUM PROLATIONE IMPERFECTA",
    "hDIMINUTION-1hDIMINUTION-2hDIMINUTION-3gPERFECTAdPERFECTUM CUM PROLATIONE IMPERFECTA",
    "gPERFECTAhDIMINUTION-1cTHIRTY-SECOND NOTEdRESTcTHREE-LINE STAFFcTORCULUSdRESUPINUScTR",
    "cTRIANGLE NOTEHEAD DOWN BLACKfWHITEeLEFT BLACKfWHITEeRIGHT BLACKfWHITEeUP BLACKfRIGHT BLACK",
    "gWHITEfWHITEcTRIANGLE-ROUND NOTEHEAD DOWN BLACKfWHITEcTURNdSLASHdUPcTWO-LINE STAFFcVIRGA",
    "cVOID NOTEHEADcWHOLE NOTEdRESTcWITH FINGERNAILScX NOTEHEADcZaMVSaMW",
    "aMYANMAR CONSONANT SIGN MEDIAL HAeRAeWAeYAdMON MEDIAL LAfMAfNAdSHAN MEDIAL WAbDIGIT EIGHT",
    "cFIVEcFOURcNINEcONEcSEVENcSIXcTHREEcTWOcZERObLETTER AcAITON RAcAUcBAcBHAcCAcCHAcDAcDDAcDDHA",
    "cDHAcEcEASTERN PWO KAREN GHWAfNNAfYWAcGAcGHAcGREAT SAcHAcIcIIcJAcJHAcKAcKHAcKHAMTI CAdCHA",
    "dDDAdDDHAdDHAdFAdGAdHAdHHAdJAdJHAdLLAdNAdNYAdRAdSAdTTAdTTHAdXAdZAcLAcLLAcMAcMON BBAdBBEdE",
    "dJHAdNGAcNAcNGAcNNAcNNYAcNYAcOcPAcPHAcRAcRUMAI PALAUNG FAcSAcSGAW KAREN SHAcSHAcSHAN AdBA",
    "dBHAdCAdCHAdDAdFAdGAdGHAdHAdJHAdKAdKHAdNAdNNAdNYAdPHAdTHAdZAcSHWE PALAUNG CHAeSHAcSSAcTA",
    "cTAI LAING BAeBHAeDAeDDAeDDHAeDHAeFAeGAeGHAeJAeJHAeLLAeNNAeNYAcTHAcTTAcTTHAcUcUUcVOCALIC L",
    "dLLdRdRRcWAcWESTERN PWO KAREN PWAfTHAcYAbLOGOGRAM KHAMTI HMdOAYdQN",
    "bMODIFIER LETTER KHAMTI REDUPLICATIONdSHAN REDUPLICATIONbSHAN DIGIT EIGHTdFIVEdFOURdNINEdONE",
    "dSEVENdSIXdTHREEdTWOdZERObSIGN ANUSVARAcASATcDOT BELOWcKHAMTI TONE-1dTONE-3cLITTLE SECTION",
    "cPAO KAREN TONEcRUMAI PALAUNG TONE-5cSECTIONcSHAN COUNCIL EMPHATIC TONEeTONE-2eTONE-3dSAW",
    "dTONE-2dTONE-3dTONE-5dTONE-6cTAI LAING TONE-2eTONE-5cVIRAMAcVISARGAcWESTERN PWO KAREN TONE-1",
    "fTONE-2fTONE-3fTONE-4fTONE-5bSYMBOL AFOREMENTIONEDcAITON EXCLAMATIONdONEdTWOcCOMPLETED",
    "cGENITIVEcLOCATIVEcSHAN EXCLAMATIONdONEbTAI LAING DIGIT EIGHTeFIVEeFOUReNINEeONEeSEVENeSIX",
    "eTHREEeTWOeZERObTONE MARK SGAW KAREN HATHIfKE PHObVOWEL SIGN AAdAIdAITON AeAIdEeABOVE",
    "dGEBA KAREN IdIdIIdKAYAH EEeOEeUdMON IIeOdSGAW KAREN EUdSHAN AAeEfABOVEeFINAL YdTALL AAdUdUU",
    "dVOCALIC LeLLeReRRdWESTERN PWO KAREN EUgUE"]

end Jet.Text.CharacterName
