/-!
# Names of characters: L

The names that begin with the letter L, in order.  A small letter stands in front of
each name and says how many words the name shares with the one before, `a` for none; only the other
words are given.
-/

namespace Jet.Text.CharacterName

/-- The names that begin with the letter L. -/
def namesL : List String :=
  ["aL B BAR SYMBOLaLAB COATaLABELaLACROSSE STICK AND BALLaLADDERaLADY BEETLEaLANGUAGE TAG",
    "aLAO CANCELLATION MARKbDIGIT EIGHTcFIVEcFOURcNINEcONEcSEVENcSIXcTHREEcTWOcZERObELLIPSIS",
    "bHO MOcNObKO LAbLETTER BOcCOcDOcFO FAYdFONdSUNGdTAMcHO SUNGdTAMcKHMU GOdNYOcKHO SUNGdTAMcKO",
    "cLOdLINGdLOOTcMOcNGOcNOcNYOcOcPALI BHAdCHAdDDAdDDHAdDHAdGHAdJHAdLLAdNNAdNYAdTTAdTTHA",
    "cPHO SUNGdTAMcPOcROcSANSKRIT SHAdSSAcSO SUNGdTAMcTHO SUNGdTAMcTOcWOcYObNIGGAHITA",
    "bSEMIVOWEL SIGN LOdNYObSIGN PALI VIRAMAbTONE MAI CATAWAdEKdTHOdTIbVOWEL SIGN AdAAdAIdAMdAYdE",
    "dEIdIdIIdMAI KANeKONdOdUdUUdYdYYaLARGE BLUE CIRCLEcDIAMONDcSQUAREbBROWN CIRCLEcSQUAREbCIRCLE",
    "bDOWN TACKbGREEN CIRCLEcSQUAREbLEFT TRIANGLE OPERATORbONE DOT OVER TWO DOTS PUNCTUATION",
    "cRING OVER TWO RINGS PUNCTUATIONbORANGE CIRCLEcDIAMONDcSQUAREbPURPLE CIRCLEcSQUARE",
    "bRED CIRCLEcSQUAREbTRIPLE VERTICAL BAR OPERATORbTWO DOTS OVER ONE DOT PUNCTUATION",
    "cRINGS OVER ONE RING PUNCTUATIONbUP TACKbYELLOW CIRCLEcSQUAREaLARGER THANcOR EQUAL TO",
    "aLARI SIGNaLAST QUARTER MOONdSYMBOLdWITH FACEaLATIN CAPITAL LETTER AeWITH ACUTEfBREVE",
    "gAND ACUTEhDOT BELOWhGRAVEhHOOK ABOVEhTILDEfCARONfCIRCUMFLEXgAND ACUTEhDOT BELOWhGRAVE",
    "hHOOK ABOVEhTILDEfDIAERESISgAND MACRONfDOT ABOVEhAND MACRONgBELOWfDOUBLE GRAVEfGRAVE",
    "fHOOK ABOVEfINVERTED BREVEfMACRONfOGONEKfRING ABOVEhAND ACUTEgBELOWfSTROKEfTILDEdAAdAE",
    "eWITH ACUTEfMACRONdAFRICAN DdALPHAdANGLICANA WdAOdAUdAVeWITH HORIZONTAL BARdAYdB",
    "eWITH DOT ABOVEgBELOWfFLOURISHfHOOKfLINE BELOWfSTROKEfTOPBARdBETAdBROKEN LdCeWITH ACUTEfBAR",
    "fCARONfCEDILLAgAND ACUTEfCIRCUMFLEXfDOT ABOVEfHOOKfPALATAL HOOKfSTROKEdCHIdCLOSED INSULAR G",
    "dCONdCUATRILLOeWITH COMMAdDeWITH CARONfCEDILLAfCIRCUMFLEX BELOWfDOT ABOVEgBELOWfHOOK",
    "fLINE BELOWfSHORT STROKE OVERLAYfSMALL LETTER ZiWITH CARONfSTROKEfTOPBARdDZeWITH CARONdE",
    "eWITH ACUTEfBREVEfCARONfCEDILLAgAND BREVEfCIRCUMFLEXgAND ACUTEhDOT BELOWhGRAVEhHOOK ABOVE",
    "hTILDEgBELOWfDIAERESISfDOT ABOVEgBELOWfDOUBLE GRAVEfGRAVEfHOOK ABOVEfINVERTED BREVEfMACRON",
    "gAND ACUTEhGRAVEfOGONEKfSTROKEfTILDEgBELOWdEGYPTOLOGICAL AINeALEFdENGdESHdETdETHdEZH",
    "eREVERSEDeWITH CARONdFeWITH DOT ABOVEfHOOKfSTROKEdGeWITH ACUTEfBREVEfCARONfCEDILLA",
    "fCIRCUMFLEXfDOT ABOVEfHOOKfMACRONfOBLIQUE STROKEfSTROKEdGAMMAdGHAdGLOTTAL AeIeSTOPeUdH",
    "eWITH BREVE BELOWfCARONfCEDILLAfCIRCUMFLEXfDESCENDERfDIAERESISfDOT ABOVEgBELOWfHOOKfSTROKE",
    "dHALF HdHENGdHWAIRdIeWITH ACUTEfBREVEfCARONfCIRCUMFLEXfDIAERESISgAND ACUTEfDOT ABOVEgBELOW",
    "fDOUBLE GRAVEfGRAVEfHOOK ABOVEfINVERTED BREVEfMACRONfOGONEKfSTROKEfTILDEgBELOWdINSULAR DeFeG",
    "eReSeTdIOTAdISdJeWITH CIRCUMFLEXfCROSSED-TAILfSTROKEdKeWITH ACUTEfCARONfCEDILLAfDESCENDER",
    "fDIAGONAL STROKEfDOT BELOWfHOOKfLINE BELOWfOBLIQUE STROKEfSTROKEgAND DIAGONAL STROKEdL",
    "eWITH ACUTEfBARfBELTfCARONfCEDILLAfCIRCUMFLEX BELOWfDOT BELOWhAND MACRONfDOUBLE BAR",
    "fHIGH STROKEfLINE BELOWfMIDDLE DOTgTILDEfSMALL LETTER JfSTROKEdLJdMeWITH ACUTEfDOT ABOVE",
    "gBELOWfHOOKdMIDDLE SCOTS SdMIDDLE-WELSH LLeVdNeWITH ACUTEfCARONfCEDILLAfCIRCUMFLEX BELOW",
    "fDESCENDERfDOT ABOVEgBELOWfGRAVEfLEFT HOOKfLINE BELOWfLONG RIGHT LEGfOBLIQUE STROKE",
    "fSMALL LETTER JfTILDEdNJdOeWITH ACUTEfBREVEfCARONfCIRCUMFLEXgAND ACUTEhDOT BELOWhGRAVE",
    "hHOOK ABOVEhTILDEfDIAERESISgAND MACRONfDOT ABOVEhAND MACRONgBELOWfDOUBLE ACUTEgGRAVEfGRAVE",
    "fHOOK ABOVEfHORNgAND ACUTEhDOT BELOWhGRAVEhHOOK ABOVEhTILDEfINVERTED BREVE",
    "fLONG STROKE OVERLAYfLOOPfMACRONgAND ACUTEhGRAVEfMIDDLE TILDEfOGONEKgAND MACRONfSTROKE",
    "gAND ACUTEfTILDEgAND ACUTEhDIAERESIShMACRONdOIdOLD POLISH OdOMEGAdOOdOPEN EeOdOUdP",
    "eWITH ACUTEfDOT ABOVEfFLOURISHfHOOKfSQUIRREL TAILfSTROKEgTHROUGH DESCENDERdQ",
    "eWITH DIAGONAL STROKEfSTROKE THROUGH DESCENDERdReROTUNDAeWITH ACUTEfCARONfCEDILLAfDOT ABOVE",
    "gBELOWhAND MACRONfDOUBLE GRAVEfINVERTED BREVEfLINE BELOWfOBLIQUE STROKEfSTROKEfTAIL",
    "dREVERSED C WITH DOTeEeHALF HeOPEN EdRUM ROTUNDAdSeWITH ACUTEgAND DOT ABOVEfCARON",
    "gAND DOT ABOVEfCEDILLAfCIRCUMFLEXfCOMMA BELOWfDOT ABOVEgBELOWhAND DOT ABOVEfHOOK",
    "fOBLIQUE STROKEfSHORT STROKE OVERLAYfSWASH TAILdSALTILLOdSCHWAdSCRIPT GdSHARP SdSIGMOID S",
    "dSMALL CAPITAL IeQ WITH HOOK TAILdTeWITH CARONfCEDILLAfCIRCUMFLEX BELOWfCOMMA BELOW",
    "fDIAGONAL STROKEfDOT ABOVEgBELOWfHOOKfLINE BELOWfRETROFLEX HOOKfSTROKEdTHORNeWITH STROKE",
    "gTHROUGH DESCENDERdTONE FIVEeSIXeTWOdTRESILLOdTURNED AeALPHAeHeINSULAR GeKeLeMeTeVdTZdUeBAR",
    "eWITH ACUTEfBREVEfCARONfCIRCUMFLEXgBELOWfDIAERESISgAND ACUTEhCARONhGRAVEhMACRONgBELOW",
    "fDOT BELOWfDOUBLE ACUTEgGRAVEfGRAVEfHOOK ABOVEfHORNgAND ACUTEhDOT BELOWhGRAVEhHOOK ABOVE",
    "hTILDEfINVERTED BREVEfMACRONgAND DIAERESISfOGONEKfRING ABOVEfSTROKEfTILDEgAND ACUTEgBELOW",
    "dUPSILONdVeWITH DIAGONAL STROKEfDOT BELOWfHOOKfTILDEdVENDdVISIGOTHIC ZdVOLAPUK AEeOEeUEdVYdW",
    "eWITH ACUTEfCIRCUMFLEXfDIAERESISfDOT ABOVEgBELOWfGRAVEfHOOKdWYNNdXeWITH DIAERESISfDOT ABOVE",
    "dYeWITH ACUTEfCIRCUMFLEXfDIAERESISfDOT ABOVEgBELOWfGRAVEfHOOKgABOVEfLOOPfMACRONfSTROKEfTILDE",
    "dYOGHdZeWITH ACUTEfCARONfCIRCUMFLEXfDESCENDERfDOT ABOVEgBELOWfHOOKfLINE BELOWfPALATAL HOOK",
    "fSTROKEfSWASH TAILcLIGATURE IJdOEbCROSSbEPIGRAPHIC LETTER ARCHAIC MdI LONGAdINVERTED M",
    "dREVERSED FePdSIDEWAYS IbLETTER AINcALVEOLAR CLICKcBIDENTAL PERCUSSIVEcBILABIAL CLICK",
    "dPERCUSSIVEcDENTAL CLICKcGLOTTAL STOPeWITH STROKEcINVERTED GLOTTAL STOPfWITH CURLgSTROKE",
    "cLATERAL CLICKcPHARYNGEAL VOICED FRICATIVEcRETROFLEX CLICKeWITH RETROFLEX HOOK",
    "cREVERSED ESH LOOPdGLOTTAL STOP WITH STROKEcSINOLOGICAL DOTcSMALL CAPITAL AeAEeBeBARRED BeC",
    "eDeEeETHeEZHeFeGfWITH HOOKeHeIeINVERTED ReJeKeLfWITH BELTgSTROKEeMeNeOeOEeOPEN OeOUePeQeR",
    "fWITH RIGHT LEGeREVERSED NfReRUMeSeTeTURNED EfGfKfMfReUeVeWeYeZcSTRETCHED CeWITH CURL",
    "cTWO WITH STROKEcVOICED LARYNGEAL SPIRANTcWYNNcYRbSMALL CAPITAL LETTER I WITH STROKE",
    "eU WITH STROKEcLETTER AeREVERSED-SCHWAeWITH ACUTEfBREVEgAND ACUTEhDOT BELOWhGRAVEhHOOK ABOVE",
    "hTILDEfCARONfCIRCUMFLEXgAND ACUTEhDOT BELOWhGRAVEhHOOK ABOVEhTILDEfDIAERESISgAND MACRON",
    "fDOT ABOVEhAND MACRONgBELOWfDOUBLE GRAVEfGRAVEfHOOK ABOVEfINVERTED BREVEfMACRONfOGONEK",
    "fRETROFLEX HOOKfRIGHT HALF RINGfRING ABOVEhAND ACUTEgBELOWfSTROKEfTILDEdAAdAEeWITH ACUTE",
    "fMACRONdALPHAeWITH RETROFLEX HOOKdANGLICANA WdAOdAUdAVeWITH HORIZONTAL BARdAYdB",
    "eWITH DOT ABOVEgBELOWfFLOURISHfHOOKfLINE BELOWfMIDDLE TILDEfPALATAL HOOKfSTROKEfTOPBAR",
    "dBARRED ALPHAeEeOdBASELINE ESHdBETAdBLACKLETTER EeOfWITH STROKEdBOTTOM HALF OdBROKEN LdC",
    "eWITH ACUTEfBARfCARONfCEDILLAgAND ACUTEfCIRCUMFLEXfCURLfDOT ABOVEfHOOKfPALATAL HOOK",
    "fRETROFLEX HOOKfSTROKEdCHIeWITH LOW LEFT SERIFgRIGHT RINGdCLOSED INSULAR GeOMEGAeOPEN E",
    "eREVERSED OPEN EdCONdCUATRILLOeWITH COMMAdDeWITH CARONfCEDILLAfCIRCUMFLEX BELOWfCURL",
    "fDOT ABOVEgBELOWfHOOKgAND TAILfLINE BELOWfMIDDLE TILDEfPALATAL HOOKfSHORT STROKE OVERLAY",
    "fSTROKEfTAILfTOPBARdDB DIGRAPHdDELTAdDEZH DIGRAPHfWITH PALATAL HOOKgRETROFLEX HOOKdDOTLESS I",
    "eJfWITH STROKEhAND HOOKdDOUBLE RfWITH CROSSED-TAILeTHORNeWYNNdDUMdDZeDIGRAPHfWITH CURL",
    "gRETROFLEX HOOKeWITH CARONdEeWITH ACUTEfBREVEfCARONfCEDILLAgAND BREVEfCIRCUMFLEXgAND ACUTE",
    "hDOT BELOWhGRAVEhHOOK ABOVEhTILDEgBELOWfDIAERESISfDOT ABOVEgBELOWfDOUBLE GRAVEfFLOURISH",
    "fGRAVEfHOOK ABOVEfINVERTED BREVEfMACRONgAND ACUTEhGRAVEfNOTCHfOGONEKfRETROFLEX HOOKfSTROKE",
    "fTILDEgBELOWdEGYPTOLOGICAL AINeALEFdENGeWITH CROSSED-TAILfPALATAL HOOKdESHeWITH CURL",
    "fDOUBLE BARhAND CURLfPALATAL HOOKfRETROFLEX HOOKdETdETHdEZHeREVERSEDeWITH CARONfCURL",
    "fPALATAL HOOKfRETROFLEX HOOKfTAILdFeWITH DOT ABOVEfHOOKfMIDDLE TILDEfPALATAL HOOKfSTROKE",
    "dFENG DIGRAPHfWITH TRILLdGeWITH ACUTEfBREVEfCARONfCEDILLAfCIRCUMFLEXfDOT ABOVEfHOOKfMACRON",
    "fOBLIQUE STROKEfPALATAL HOOKfSTROKEdGAMMAdGHAdGLOTTAL AeIeSTOPeUdHeWITH BREVE BELOWfCARON",
    "fCEDILLAfCIRCUMFLEXfDESCENDERfDIAERESISfDOT ABOVEgBELOWfHOOKfLINE BELOWfPALATAL HOOKfSTROKE",
    "dHALF HdHENGeWITH HOOKdHVdIeWITH ACUTEfBREVEfCARONfCIRCUMFLEXfDIAERESISgAND ACUTEfDOT BELOW",
    "fDOUBLE GRAVEfGRAVEfHOOK ABOVEfINVERTED BREVEfMACRONfOGONEKfRETROFLEX HOOKfSTROKE",
    "gAND RETROFLEX HOOKfTILDEgBELOWdINSULAR DeFeGeReSeTdINVERTED ALPHAeOEdIOTAeWITH STROKE",
    "dIOTIFIED EdISdJeWITH CARONfCIRCUMFLEXfCROSSED-TAILfSTROKEdKeWITH ACUTEfCARONfCEDILLA",
    "fDESCENDERfDIAGONAL STROKEfDOT BELOWfHOOKfLINE BELOWfOBLIQUE STROKEfPALATAL HOOKfSTROKE",
    "gAND DIAGONAL STROKEdKRAdLeWITH ACUTEfBARfBELTgAND PALATAL HOOKfCARONfCEDILLA",
    "fCIRCUMFLEX BELOWfCURLfDOT BELOWhAND MACRONfDOUBLE BARgMIDDLE TILDEfFISHHOOKfHIGH STROKE",
    "fINVERTED LAZY SfLINE BELOWfMIDDLE DOTgRINGgTILDEfPALATAL HOOKfRETROFLEX HOOKhAND BELT",
    "fSTROKEdLAMBDA WITH STROKEdLENIS FdLEZHeWITH RETROFLEX HOOKdLJdLONG SfWITH DIAGONAL STROKE",
    "gDOT ABOVEgHIGH STROKEdLS DIGRAPHdLUMdLZ DIGRAPHdMeWITH ACUTEfCROSSED-TAILfDOT ABOVEgBELOW",
    "fHOOKfMIDDLE TILDEfPALATAL HOOKdMIDDLE SCOTS SdMIDDLE-WELSH LLeVdMUMdN",
    "ePRECEDED BY APOSTROPHEeWITH ACUTEfCARONfCEDILLAfCIRCUMFLEX BELOWfCROSSED-TAILfCURL",
    "fDESCENDERfDOT ABOVEgBELOWfGRAVEfLEFT HOOKfLINE BELOWfLONG RIGHT LEGfMIDDLE TILDE",
    "fOBLIQUE STROKEfPALATAL HOOKfRETROFLEX HOOKfTILDEdNJdNUMdOeWITH ACUTEfBREVEfCARONfCIRCUMFLEX",
    "gAND ACUTEhDOT BELOWhGRAVEhHOOK ABOVEhTILDEfDIAERESISgAND MACRONfDOT ABOVEhAND MACRONgBELOW",
    "fDOUBLE ACUTEgGRAVEfGRAVEfHOOK ABOVEfHORNgAND ACUTEhDOT BELOWhGRAVEhHOOK ABOVEhTILDE",
    "fINVERTED BREVEfLONG STROKE OVERLAYfLOOPfLOW RING INSIDEfMACRONgAND ACUTEhGRAVEfOGONEK",
    "gAND MACRONfRETROFLEX HOOKfSTROKEgAND ACUTEfTILDEgAND ACUTEhDIAERESIShMACRONdOIdOLD POLISH O",
    "dOMEGAdOOdOPEN EfWITH RETROFLEX HOOKeOfWITH RETROFLEX HOOKgSTROKEeOEdOUdPeWITH ACUTE",
    "fDOT ABOVEfFLOURISHfHOOKfMIDDLE TILDEfPALATAL HOOKfSQUIRREL TAILfSTROKEgTHROUGH DESCENDER",
    "dPHIdQeWITH DIAGONAL STROKEfHOOKgTAILfSTROKE THROUGH DESCENDERdQP DIGRAPHdReROTUNDA",
    "eWITH ACUTEfCARONfCEDILLAfCROSSED-TAILfDOT ABOVEgBELOWhAND MACRONfDOUBLE GRAVEfFISHHOOK",
    "gAND MIDDLE TILDEhPALATAL HOOKfINVERTED BREVEfLINE BELOWfLONG LEGfMIDDLE TILDE",
    "fOBLIQUE STROKEfPALATAL HOOKfSTROKEfTAILeWITHOUT HANDLEdRAMS HORNdREVERSED CfWITH DOTeEeENG",
    "eHALF HeKeOPEN EgWITH HOOKhRETROFLEX HOOKeR WITH FISHHOOKeSCRIPT GdRUMeROTUNDAdSeWITH ACUTE",
    "gAND DOT ABOVEfCARONgAND DOT ABOVEfCEDILLAfCIRCUMFLEXfCOMMA BELOWfCURLfDOT ABOVEgBELOW",
    "hAND DOT ABOVEfHOOKfMIDDLE TILDEfOBLIQUE STROKEfPALATAL HOOKfSHORT STROKE OVERLAYfSWASH TAIL",
    "dSAKHA YATdSALTILLOdSCHWAeWITH HOOKfRETROFLEX HOOKdSCRIPT GfWITH CROSSED-TAILeRfWITH RING",
    "dSHARP SdSIDEWAYS DIAERESIZED UeOfWITH STROKEeOPEN OeTURNED MeUdSIGMOID SdSQUAT REVERSED ESH",
    "dSTIRRUP RdTeWITH CARONfCEDILLAfCIRCUMFLEX BELOWfCOMMA BELOWfCURLfDIAERESISfDIAGONAL STROKE",
    "fDOT ABOVEgBELOWfHOOKgAND RETROFLEX HOOKfLINE BELOWfMIDDLE TILDEfPALATAL HOOKfRETROFLEX HOOK",
    "fSTROKEdTAILLESS PHIdTC DIGRAPH WITH CURLdTESH DIGRAPHfWITH PALATAL HOOKgRETROFLEX HOOK",
    "dTH WITH STRIKETHROUGHdTHORNeWITH STROKEgTHROUGH DESCENDERdTONE FIVEeSIXeTWOdTOP HALF O",
    "dTRESILLOdTS DIGRAPHfWITH RETROFLEX HOOKdTUMdTURNED AeAEeALPHAeDELTAeEeGeHfWITH FISHHOOK",
    "hAND TAILeIeINSULAR GeKeLeMfWITH LONG LEGeO OPEN-OgWITH STROKEeOEfWITH HORIZONTAL STROKE",
    "gSTROKEeOPEN EeRfWITH HOOKgLONG LEGiAND RETROFLEX HOOKgMIDDLE TILDEgPALATAL HOOKgTAILeT",
    "fWITH CURLeUIeVeWeYfWITH BELTdTZdUeBARfWITH SHORT RIGHT LEGeWITH ACUTEfBREVEfCARON",
    "fCIRCUMFLEXgBELOWfDIAERESISgAND ACUTEhCARONhGRAVEhMACRONgBELOWfDOT BELOWfDOUBLE ACUTEgGRAVE",
    "fGRAVEfHOOK ABOVEfHORNgAND ACUTEhDOT BELOWhGRAVEhHOOK ABOVEhTILDEfINVERTED BREVEfLEFT HOOK",
    "fMACRONgAND DIAERESISfOGONEKfRETROFLEX HOOKfRING ABOVEfSHORT RIGHT LEGfSTROKEfTILDE",
    "gAND ACUTEgBELOWdUEdUIdUMdUOdUPSILONeWITH STROKEdVeWITH CURLfDIAGONAL STROKEfDOT BELOWfHOOK",
    "fPALATAL HOOKfRIGHT HOOKfTILDEdVENDdVISIGOTHIC ZdVOLAPUK AEeOEeUEdVYdWeWITH ACUTEfCIRCUMFLEX",
    "fDIAERESISfDOT ABOVEgBELOWfGRAVEfHOOKfRING ABOVEdXeWITH DIAERESISfDOT ABOVEfLONG LEFT LEG",
    "iAND LOW RIGHT RINGiWITH SERIFfLOW RIGHT RINGfPALATAL HOOKdYeWITH ACUTEfCIRCUMFLEXfDIAERESIS",
    "fDOT ABOVEgBELOWfGRAVEfHOOKgABOVEfLOOPfMACRONfRING ABOVEfSHORT RIGHT LEGfSTROKEfTILDEdYOGHdZ",
    "eWITH ACUTEfCARONfCIRCUMFLEXfCURLfDESCENDERfDOT ABOVEgBELOWfHOOKfLINE BELOWfMIDDLE TILDE",
    "fPALATAL HOOKfRETROFLEX HOOKfSTROKEfSWASH TAILcLIGATURE FFdFFIdFFLdFIdFLdIJdLONG S TdOEdST",
    "bSUBSCRIPT SMALL LETTER AeEeHeIeJeKeLeMeNeOePeReSeSCHWAeTeUeVeXaLEAF FLUTTERING IN WIND",
    "aLEAFY GREENaLEDGERaLEFT AND LOWER AND RIGHT TRIANGULAR THREE QUARTERS BLOCK",
    "dONE EIGHTH BLOCKcRIGHT DOUBLE TURNSTILEdTACKdTRIANGULAR HALF BLOCK",
    "cUPPER AND RIGHT TRIANGULAR THREE QUARTERS BLOCKdONE EIGHTH BLOCKbANGER BUBBLEbANGLE BRACKET",
    "dWITH DOTbARC LESS-THAN BRACKETbARROW WITH CIRCLED PLUSdSMALL CIRCLE",
    "bBARB DOWN RIGHT BARB DOWN HARPOONfUP HARPOONcUP RIGHT BARB DOWN HARPOONfUP HARPOON",
    "bBLACK LENTICULAR BRACKETcTORTOISE SHELL BRACKETbCEILINGbCLOSED ENTRYbCORNER BRACKET",
    "bCURLY BRACKETdLOWER HOOKdMIDDLE PIECEdUPPER HOOKbDOTTED SUBSTITUTION BRACKET",
    "bDOUBLE ANGLE BRACKETcPARENTHESIScQUOTATION MARKcWIGGLY FENCEbFISH TAILbFIVE EIGHTHS BLOCK",
    "bFLOORbHALF BLACK CIRCLEdSTARcBLOCKcCIRCLEdWITH DOTeFOUR DOTSeTHREE DOTSeTWO DOTScFOLDER",
    "cINVERSE MEDIUM SHADE AND RIGHT HALF BLOCKcMEDIUM SHADEcRUNNING MANbHAND TELEPHONE RECEIVER",
    "bLOW PARAPHRASE BRACKETbLUGGAGEbMULTIMAPbNORMAL FACTOR SEMIDIRECT PRODUCTbONE EIGHTH BLOCK",
    "cQUARTER BLOCKbOUTER JOINbPARENTHESIScEXTENSIONcLOWER HOOKcUPPER HOOK",
    "bRAISED OMISSION BRACKETbRIGHT ARROWdTHROUGH SMALL CIRCLEdWITH DOUBLE VERTICAL STROKEeSTROKE",
    "eVERTICAL STROKEcBLACK ARROWcDOUBLE ARROWeWITH STROKEfVERTICAL STROKEcOPEN-HEADED ARROW",
    "cSANS-SERIF ARROWcTRIANGLE-HEADED ARROWcWAVE ARROWcWHITE ARROWbS-SHAPED BAG DELIMITER",
    "bSEMIDIRECT PRODUCTbSEVEN EIGHTHS BLOCKbSIDEWAYS U BRACKETbSINGLE QUOTATION MARK",
    "bSPEECH BUBBLEbSQUARE BRACKETdEXTENSIONdLOWER CORNERdUPPER CORNERdWITH DOUBLE STROKEeQUILL",
    "eSTROKEeTICK IN BOTTOM CORNERgTOP CORNEReUNDERBARbSUBSTITUTION BRACKETbTACK",
    "bTHIRD WHITE RIGHT POINTING INDEXbTHOUGHT BUBBLEbTHREE EIGHTHS BLOCKcQUARTERS BLOCK",
    "bTORTOISE SHELL BRACKETbTRANSPOSITION BRACKETbTRIANGLE BESIDE VERTICAL BAR",
    "bTRIANGULAR ONE QUARTER BLOCKbVERTICAL BAR WITH QUILLcBOX LINEbWHITE CORNER BRACKET",
    "cCURLY BRACKETcLENTICULAR BRACKETcPARENTHESIScSQUARE BRACKETcTORTOISE SHELL BRACKET",
    "bWIGGLY FENCEbWRITING HANDaLEFT-FACING ARMENIAN ETERNITY SIGNbFISTbSVASTI SIGNdWITH DOTS",
    "aLEFT-HANDED INTERLACED PENTAGRAMaLEFT-POINTING ANGLE BRACKETbCURVED ANGLE BRACKET",
    "bDOUBLE ANGLE QUOTATION MARKbMAGNIFYING GLASSaLEFT-SHADED WHITE RIGHTWARDS ARROW",
    "aLEFT-SIDE ARC ANTICLOCKWISE ARROWaLEFT-TO-RIGHT EMBEDDINGbISOLATEbMARKbOVERRIDE",
    "aLEFTWARDS ARROWcABOVE ALMOST EQUAL TOdREVERSE ALMOST EQUAL TOeTILDE OPERATOR",
    "dSHORT RIGHTWARDS ARROWdTILDE OPERATORcAND UPPER AND LOWER ONE EIGHTH BLOCKcFROM BAR",
    "eTO BLACK DIAMONDcOVER RIGHTWARDS ARROWcTHROUGH LESS-THANdSUBSETdXcTO BAR",
    "eOVER RIGHTWARDS ARROW TO BARdBLACK DIAMONDcWITH DOTTED STEMdDOUBLE VERTICAL STROKE",
    "dEQUILATERAL ARROWHEADdHOOKdLARGE TRIANGLE ARROWHEADdLOOPdMEDIUM TRIANGLE ARROWHEAD",
    "dNOTCHED TAILdPLUS BELOWdSMALL EQUILATERAL ARROWHEADeTRIANGLE ARROWHEADdSTROKEdTAIL",
    "eWITH DOUBLE VERTICAL STROKEfVERTICAL STROKEdTIP DOWNWARDSeUPWARDSdVERTICAL STROKE",
    "bARROW-TAILbBACK-TILTED SHADOWED WHITE ARROWbBLACK ARROWcCIRCLED WHITE ARROW",
    "bBOTTOM-SHADED WHITE ARROWbCOMPRESSED ARROWbDASHED ARROWbDOUBLE ARROWdFROM BARdWITH STROKE",
    "eVERTICAL STROKEcARROW-TAILcDASH ARROWbFINGER-POST ARROWbFRONT-TILTED SHADOWED WHITE ARROW",
    "bHANDbHARPOON OVER RIGHTWARDS HARPOONcWITH BARB DOWN ABOVE RIGHTWARDS HARPOON WITH BARB DOWN",
    "fBELOW LONG DASHfFROM BARfTO BAReDOWNWARDSeUP ABOVE LEFTWARDS HARPOON WITH BARB DOWN",
    "gLONG DASHgRIGHTWARDS HARPOON WITH BARB UPfFROM BARfTO BAReUPWARDSbHEAVY ARROW",
    "cCOMPRESSED ARROWbLEFT-SHADED WHITE ARROWbOPEN-HEADED ARROWbPAIRED ARROWSbQUADRUPLE ARROW",
    "bRIGHT-SHADED WHITE ARROWbROCKETbSANS-SERIF ARROWbSQUARED ARROWbSQUIGGLE ARROW",
    "bTOP SHADED WHITE ARROWbTRIANGLE ARROWHEADbTRIANGLE-HEADED ARROW",
    "dOVER RIGHTWARDS TRIANGLE-HEADED ARROWdTO BARdWITH BOLD SHAFTeDOUBLE HORIZONTAL STROKE",
    "fVERTICAL STROKEeHEAVY SHAFTeLONG TIP DOWNWARDSgUPWARDSeMEDIUM SHAFTeNARROW SHAFT",
    "eVERY HEAVY SHAFTcDASHED ARROWcPAIRED ARROWSbTRIPLE ARROWcDASH ARROWbTWO HEADED ARROW",
    "bTWO-HEADED ARROW FROM BARdWITH DOUBLE VERTICAL STROKEeTAILfWITH DOUBLE VERTICAL STROKE",
    "gVERTICAL STROKEeTRIANGLE ARROWHEADSeVERTICAL STROKEcTRIPLE DASH ARROWbWAVE ARROW",
    "bWHITE ARROWdWITHIN TRIANGLE ARROWHEADaLEGaLEMONaLEOaLEOPARDaLEPCHA CONSONANT SIGN KdKANGdL",
    "dMdNdNYIN-DOdPdRdTbDIGIT EIGHTcFIVEcFOURcNINEcONEcSEVENcSIXcTHREEcTWOcZERObLETTER AcBAcBLA",
    "cCAcCHAcDAcDDAcDZAcFAcFLAcGAcGLAcHAcHLAcJAcKAcKHAcKLAcLAcMAcMLAcNAcNGAcNYAcPAcPHAcPLAcRAcSA",
    "cSHAcTAcTHAcTSAcTSHAcTTAcTTHAcVAcWAcYAbPUNCTUATION CER-WAcNYET THYOOM TA-ROLcTA-ROLcTSHOOK",
    "dCER-WAbSIGN NUKTAcRANbSUBJOINED LETTER RAdYAbVOWEL SIGN AAdEdIdOdOOdUdUU",
    "aLESS-THAN ABOVE DOUBLE-LINE EQUAL ABOVE GREATER-THANcGREATER-THAN ABOVE DOUBLE-LINE EQUAL",
    "cLEFTWARDS ARROWcSIMILAR ABOVE GREATER-THANdOR EQUAL",
    "cSLANTED EQUAL ABOVE GREATER-THAN ABOVE SLANTED EQUALbAND NOT APPROXIMATE",
    "cSINGLE-LINE NOT EQUAL TObBUT NOT EQUAL TOdEQUIVALENT TObCLOSED BY CURVEeABOVE SLANTED EQUAL",
    "bEQUAL TO OR GREATER-THANbOR APPROXIMATEcEQUAL TOcEQUIVALENT TOcGREATER-THAN",
    "cSLANTED EQUAL TOfWITH DOT ABOVEiRIGHThINSIDEbOVER EQUAL TObSIGNbWITH CIRCLE INSIDEcDOT",
    "cQUESTION MARK ABOVEaLEVEL SLIDERaLFaLIBRAaLIGATURE OPEN ET ORNAMENTaLIGHT CHECK MARK",
    "bEIGHT SPOKED ASTERISKbFIVE POINTED BLACK STARcSPOKED ASTERISKbFOUR POINTED BLACK CUSPeSTAR",
    "bGREEK CROSSbLEFT TORTOISE SHELL BRACKET ORNAMENTbRAILbRIGHT TORTOISE SHELL BRACKET ORNAMENT",
    "bSALTIREbSHADEbSIX SPOKED ASTERISKbTHREE POINTED BLACK STARbTWELVE POINTED BLACK STAR",
    "bVERTICAL BARbWHITE SQUAREaLIGHTNINGbMOODcBUBBLEaLIMBU DIGIT EIGHTcFIVEcFOURcNINEcONEcSEVEN",
    "cSIXcTHREEcTWOcZERObEXCLAMATION MARKbLETTER BAcBHAcCAcCHAcDAcDHAcGAcGHAcGYANcHAcJAcJHAcKA",
    "cKHAcLAcMAcNAcNGAcPAcPHAcRAcSAcSHAcSSAcTAcTHAcTRAcWAcYAcYANbQUESTION MARKbSIGN KEMPHRENGcLOO",
    "cMUKPHRENGcSA-IbSMALL LETTER ANUSVARAdKAdLAdMAdNAdNGAdPAdRAdTAbSUBJOINED LETTER RAdWAdYA",
    "bVOWEL SIGN AdAIdAUdEdEEdIdOdOOdUbVOWEL-CARRIER LETTERaLIMITED LIABILITY SIGNaLINE FEED",
    "bINTEGRATION NOT INCLUDING THE POLEcWITH RECTANGULAR PATH AROUND POLE",
    "dSEMICIRCULAR PATH AROUND POLEbSEPARATORbTABULATIONcSETaLINEAR A SIGN A028BdA100-102dA120B",
    "dA131CdA301dA302dA303dA304dA305dA306dA307dA308dA309AdA309BdA309CdA310dA311dA312dA313AdA313B",
    "dA313CdA314dA315dA316dA317dA318dA319dA320dA321dA322dA323dA324dA325dA326dA327dA328dA329dA330",
    "dA331dA332dA333dA334dA335dA336dA337dA338dA339dA340dA341dA342dA343dA344dA345dA346dA347dA348",
    "dA349dA350dA351dA352dA353dA354dA355dA356dA357dA358dA359dA360dA361dA362dA363dA364dA365dA366",
    "dA367dA368dA369dA370dA371dA400-VASdA401-VASdA402-VASdA403-VASdA404-VASdA405-VASdA406-VAS",
    "dA407-VASdA408-VASdA409-VASdA410-VASdA411-VASdA412-VASdA413-VASdA414-VASdA415-VASdA416-VAS",
    "dA417-VASdA418-VASdA501dA502dA503dA504dA505dA506dA508dA509dA510dA511dA512dA513dA515dA516",
    "dA520dA521dA523dA524dA525dA526dA527dA528dA529dA530dA531dA532dA534dA535dA536dA537dA538dA539",
    "dA540dA541dA542dA545dA547dA548dA549dA550dA551dA552dA553dA554dA555dA556dA557dA559dA563dA564",
    "dA565dA566dA568dA569dA570dA571dA572dA573dA574dA575dA576dA577dA578dA579dA580dA581dA582dA583",
    "dA584dA585dA586dA587dA588dA589dA591dA592dA594dA595dA596dA598dA600dA601dA602dA603dA604dA606",
    "dA608dA609dA610dA611dA612dA613dA614dA615dA616dA617dA618dA619dA620dA621dA622dA623dA624dA626",
    "dA627dA628dA629dA634dA637dA638dA640dA642dA643dA644dA645dA646dA648dA649dA651dA652dA653dA654",
    "dA655dA656dA657dA658dA659dA660dA661dA662dA663dA664dA701 AdA702 BdA703 DdA704 EdA705 FdA706 H",
    "dA707 JdA708 KdA709 LdA709-2 L2dA709-3 L3dA709-4 L4dA709-6 L6dA710 WdA711 XdA712 Y",
    "dA713 OMEGAdA714 ABBdA715 BBdA717 DDdA726 EYYYdA732 JEdA800dA801dA802dA803dA804dA805dA806",
    "dA807dAB001dAB002dAB003dAB004dAB005dAB006dAB007dAB008dAB009dAB010dAB011dAB013dAB016dAB017",
    "dAB020dAB021dAB021FdAB021MdAB022dAB022FdAB022MdAB023dAB023MdAB024dAB026dAB027dAB028dAB029",
    "dAB030dAB031dAB034dAB037dAB038dAB039dAB040dAB041dAB044dAB045dAB046dAB047dAB048dAB049dAB050",
    "dAB051dAB053dAB054dAB055dAB056dAB057dAB058dAB059dAB060dAB061dAB065dAB066dAB067dAB069dAB070",
    "dAB073dAB074dAB076dAB077dAB078dAB079dAB080dAB081dAB082dAB085dAB086dAB087dAB118dAB120dAB122",
    "dAB123dAB131AdAB131BdAB164dAB171dAB180dAB188dAB191bB IDEOGRAM B100 MANdB102 WOMANdB104 DEER",
    "dB105 EQUIDdB105F MAREdB105M STALLIONdB106F EWEdB106M RAMdB107F SHE-GOATdB107M HE-GOAT",
    "dB108F SOWdB108M BOARdB109F COWdB109M BULLdB120 WHEATdB121 BARLEYdB122 OLIVEdB123 SPICE",
    "dB125 CYPERUSdB130 OILdB131 WINEdB132dB140 BRONZEdB141 GOLDdB142dB145 WOOLdB146dB150",
    "dB151 HORNdB152dB153dB154dB157dB158dB159 CLOTHdB160dB161dB162 GARMENTdB163 ARMOURdB164dB165",
    "dB166dB167dB168dB169dB170dB171dB172dB173 MONTHdB174dB176 TREEdB177dB178dB179dB180dB181dB182",
    "dB183dB184dB185dB189dB190dB191 HELMETdB220 FOOTSTOOLdB225 BATHTUBdB230 SPEARdB231 ARROWdB232",
    "dB233 SWORDdB234dB236dB240 WHEELED CHARIOTdB241 CHARIOTdB242 CHARIOT FRAMEdB243 WHEELdB245",
    "dB246dB248dB249dB251dB252dB253dB254 DARTdB255dB256dB257dB258dB259dVESSEL B155eB200eB201eB202",
    "eB203eB204eB205eB206eB207eB208eB209eB210eB211eB212eB213eB214eB215eB216eB217eB218eB219eB221",
    "eB222eB226eB227eB228eB229eB250eB305cMONOGRAM B127 KAPOdB128 KANAKOdB133 AREPAdB135 MERI",
    "dB156 TURO2dB247 DIPTEcSYLLABLE B001 DAdB002 ROdB003 PAdB004 TEdB005 TOdB006 NAdB007 DI",
    "dB008 AdB009 SEdB010 UdB011 POdB012 SOdB013 MEdB014 DOdB015 MOdB016 QAdB017 ZAdB020 ZO",
    "dB021 QIdB023 MUdB024 NEdB025 A2dB026 RUdB027 REdB028 IdB029 PU2dB030 NIdB031 SAdB032 QO",
    "dB033 RA3dB036 JOdB037 TIdB038 EdB039 PIdB040 WIdB041 SIdB042 WOdB043 A3dB044 KEdB045 DE",
    "dB046 JEdB048 NWAdB050 PUdB051 DUdB052 NOdB053 RIdB054 WAdB055 NUdB057 JAdB058 SUdB059 TA",
    "dB060 RAdB061 OdB062 PTEdB065 JUdB066 TA2dB067 KIdB068 RO2dB069 TUdB070 KOdB071 DWEdB072 PE",
    "dB073 MIdB074 ZEdB075 WEdB076 RA2dB077 KAdB078 QEdB080 MAdB081 KUdB085 AUdB087 TWEdB090 DWO",
    "dB091 TWOcSYMBOL B018dB019dB022dB034dB047dB049dB056dB063dB064dB079dB082dB083dB086dB089",
    "aLINK SYMBOLaLINKED PAPERCLIPSaLION FACEaLIPSaLIPSTICKaLIRA SIGNaLISU LETTER AcAEcBAcCAcCHA",
    "cDAcDZAcEcEUcFAcGAcGHAcHAcHHAcIcJAcKAcKHAcLAcMAcNAcNGAcOcOEcPAcPHAcSAcSHAcTAcTHAcTONE MYA BO",
    "eCYAeJEUeNAeTIdNA POcTSAcTSHAcUcUEcUHcWAcXAcYAcYHAcZAcZHAbPUNCTUATION COMMAcFULL STOP",
    "aLIVRE TOURNOIS SIGNaLIZARDaLLAMAaLOBSTERaLOCKbWITH INK PENaLOCKING-SHIFT ONEbZERO",
    "aLOGICAL ANDcWITH DOT ABOVEdDOUBLE OVERBAReUNDERBARdHORIZONTAL DASHdMIDDLE STEMdUNDERBARbOR",
    "cOVERLAPPING LOGICAL ANDcWITH DOT ABOVEdDOUBLE OVERBAReUNDERBARdHORIZONTAL DASHdMIDDLE STEM",
    "aLOLLIPOPaLONG DASH FROM LEFT MEMBER OF DOUBLE VERTICALbDIVISIONbDRUMbLEFT RIGHT ARROW",
    "dDOUBLE ARROWcTACKbLEFTWARDS ARROWdFROM BARcDOUBLE ARROWeFROM BARcSQUIGGLE ARROWbRIGHT TACK",
    "bRIGHTWARDS ARROWdFROM BARcDOUBLE ARROWeFROM BARcSQUIGGLE ARROWaLOTION BOTTLEaLOTUS",
    "aLOUDLY CRYING FACEaLOVE HOTELbLETTERaLOW ASTERISKbBATTERYbBRIGHTNESS SYMBOL",
    "bDOUBLE PRIME QUOTATION MARKbKAVYKAcWITH DOTbLINEaLOWER BLADE SCISSORSbFIVE EIGHTHS BLOCK",
    "bHALF BLOCKcCIRCLEcINVERSE WHITE CIRCLEcMEDIUM SHADEbLEFT BALLPOINT PEN",
    "cBLOCK DIAGONAL LOWER MIDDLE LEFT TO LOWER CENTREjRIGHTeUPPER CENTRE TO LOWER MIDDLE RIGHT",
    "iRIGHThUPPER MIDDLE RIGHTfLEFT TO LOWER CENTREiMIDDLE RIGHThUPPER MIDDLE RIGHT",
    "fMIDDLE LEFT TO LOWER CENTREjMIDDLE RIGHTjRIGHTcCRAYONcFOUNTAIN PENcPAINTBRUSHcPENCIL",
    "cQUADRANT CIRCULAR ARCcSEMICIRCULAR ANTICLOCKWISE ARROWcTRIANGLEcTRIANGULAR MEDIUM SHADE",
    "bONE EIGHTH BLOCKcQUARTER BLOCKbRIGHT BLOCK DIAGONAL LOWER CENTRE TO LOWER MIDDLE RIGHT",
    "hUPPER MIDDLE RIGHTiRIGHTfLEFT TO LOWER MIDDLE RIGHThUPPER CENTREiMIDDLE RIGHT",
    "fMIDDLE LEFT TO UPPER CENTREjMIDDLE RIGHTjRIGHTeUPPER MIDDLE LEFT TO UPPER CENTREjRIGHT",
    "cCORNER WITH DOTcDROP-SHADOWED WHITE SQUAREcPENCILcQUADRANT CIRCULAR ARC",
    "cSEMICIRCULAR CLOCKWISE ARROWcSHADOWED WHITE CIRCLEeSQUAREcTRIANGLEcTRIANGULAR MEDIUM SHADE",
    "bSEVEN EIGHTHS BLOCKbTHREE EIGHTHS BLOCKcQUARTERS BLOCKbTRIANGULAR ONE QUARTER BLOCKaLOZENGE",
    "bDIVIDED BY HORIZONTAL RULEaLREaLRIaLRMaLROaLUGGAGEaLUNGSaLYCIAN LETTER AcANcBcBHcDcEcENcGcH",
    "cIcJcKcKKcLcMcMMcNcNNcPcQcRcScTcTHcTTcUcWcXcZaLYDIAN LETTER AcANcBcCcDcEcENcFcGcIcKcLcLYcMcN",
    "cNNcOcQcRcScSScTcTTcUcVcYbTRIANGULAR MARKaLYING FACE"]

end Jet.Text.CharacterName
