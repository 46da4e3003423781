set_option autoImplicit false

/-! # Names of characters

Latin, Greek, Cyrillic, Armenian and Hebrew letters, and the signs beside them. -/

namespace ApiRouter.Text.Name

/-- The names of the characters from 20 to 5F4. -/
def latin : List String := [
  "=20aSPACEaEXCLAMATION MARKanQUOTATIONaNUMBER SIGNanDOLLARanPERCENTaAMPERSANDaAPOSTROPHE",
  "aLEFT PARENTHESISanRIGHTaASTERISKaPLUS SIGNaCOMMAaHYPHEN-MINUSaFULL STOPaSOLIDUSaDIGIT ZERO",
  "bONEbTWObTHREEbFOURbFIVEbSIXbSEVENbEIGHTbNINEaCOLONaSEMICOLONaLESS-THAN SIGNanEQUALS",
  "anGREATER-THANaQUESTION MARKaCOMMERCIAL ATaLATIN CAPITAL LETTER AdBdCdDdEdFdGdHdIdJdKdLdMdNdO",
  "dPdQdRdSdTdUdVdWdXdYdZaLEFT SQUARE BRACKETaREVERSE SOLIDUSaRIGHT SQUARE BRACKET",
  "aCIRCUMFLEX ACCENTaLOW LINEaGRAVE ACCENTaLATIN SMALL LETTER AdBdCdDdEdFdGdHdIdJdKdLdMdNdOdPdQ",
  "dRdSdTdUdVdWdXdYdZaLEFT CURLY BRACKETaVERTICAL LINEaRIGHT CURLY BRACKETaTILDE=A0",
  "aNO-BREAK SPACEaINVERTED EXCLAMATION MARKaCENT SIGNanPOUNDanCURRENCYanYENaBROKEN BAR",
  "aSECTION SIGNaDIAERESISaCOPYRIGHT SIGNaFEMININE ORDINAL INDICATOR",
  "aLEFT-POINTING DOUBLE ANGLE QUOTATION MARKaNOT SIGNaSOFT HYPHENaREGISTERED SIGNaMACRON",
  "aDEGREE SIGNanPLUS-MINUSaSUPERSCRIPT TWObTHREEaACUTE ACCENTaMICRO SIGNanPILCROWaMIDDLE DOT",
  "aCEDILLAaSUPERSCRIPT ONEaMASCULINE ORDINAL INDICATOR",
  "aRIGHT-POINTING DOUBLE ANGLE QUOTATION MARKaVULGAR FRACTION ONE QUARTERdHALFcTHREE QUARTERS",
  "aINVERTED QUESTION MARKaLATIN CAPITAL LETTER A WITH GRAVEfACUTEfCIRCUMFLEXfTILDEfDIAERESIS",
  "fRING ABOVEdAEdC WITH CEDILLAdE WITH GRAVEfACUTEfCIRCUMFLEXfDIAERESISdI WITH GRAVEfACUTE",
  "fCIRCUMFLEXfDIAERESISdETHdN WITH TILDEdO WITH GRAVEfACUTEfCIRCUMFLEXfTILDEfDIAERESIS",
  "aMULTIPLICATION SIGNaLATIN CAPITAL LETTER O WITH STROKEdU WITH GRAVEfACUTEfCIRCUMFLEX",
  "fDIAERESISdY WITH ACUTEdTHORNbSMALL LETTER SHARP SdA WITH GRAVEfACUTEfCIRCUMFLEXfTILDE",
  "fDIAERESISfRING ABOVEdAEdC WITH CEDILLAdE WITH GRAVEfACUTEfCIRCUMFLEXfDIAERESISdI WITH GRAVE",
  "fACUTEfCIRCUMFLEXfDIAERESISdETHdN WITH TILDEdO WITH GRAVEfACUTEfCIRCUMFLEXfTILDEfDIAERESIS",
  "aDIVISION SIGNaLATIN SMALL LETTER O WITH STROKEdU WITH GRAVEfACUTEfCIRCUMFLEXfDIAERESIS",
  "dY WITH ACUTEdTHORNdY WITH DIAERESISbCAPITAL LETTER A WITH MACRONbqSMALL",
  "bCAPITAL LETTER A WITH BREVEbqSMALLbCAPITAL LETTER A WITH OGONEKbqSMALL",
  "bCAPITAL LETTER C WITH ACUTEbqSMALLbCAPITAL LETTER C WITH CIRCUMFLEXbqSMALL",
  "bCAPITAL LETTER C WITH DOT ABOVEbrSMALLbCAPITAL LETTER C WITH CARONbqSMALLboCAPITAL LETTER D",
  "bqSMALLbCAPITAL LETTER D WITH STROKEbqSMALLbCAPITAL LETTER E WITH MACRONbqSMALL",
  "bCAPITAL LETTER E WITH BREVEbqSMALLbCAPITAL LETTER E WITH DOT ABOVEbrSMALL",
  "bCAPITAL LETTER E WITH OGONEKbqSMALLbCAPITAL LETTER E WITH CARONbqSMALL",
  "bCAPITAL LETTER G WITH CIRCUMFLEXbqSMALLbCAPITAL LETTER G WITH BREVEbqSMALL",
  "bCAPITAL LETTER G WITH DOT ABOVEbrSMALLbCAPITAL LETTER G WITH CEDILLAbqSMALL",
  "bCAPITAL LETTER H WITH CIRCUMFLEXbqSMALLbCAPITAL LETTER H WITH STROKEbqSMALL",
  "bCAPITAL LETTER I WITH TILDEbqSMALLbCAPITAL LETTER I WITH MACRONbqSMALL",
  "bCAPITAL LETTER I WITH BREVEbqSMALLbCAPITAL LETTER I WITH OGONEKbqSMALL",
  "bCAPITAL LETTER I WITH DOT ABOVEbSMALL LETTER DOTLESS IbCAPITAL LIGATURE IJboSMALL",
  "bCAPITAL LETTER J WITH CIRCUMFLEXbqSMALLbCAPITAL LETTER K WITH CEDILLAbqSMALLdKRA",
  "bCAPITAL LETTER L WITH ACUTEbqSMALLbCAPITAL LETTER L WITH CEDILLAbqSMALL",
  "bCAPITAL LETTER L WITH CARONbqSMALLbCAPITAL LETTER L WITH MIDDLE DOTbrSMALL",
  "bCAPITAL LETTER L WITH STROKEbqSMALLbCAPITAL LETTER N WITH ACUTEbqSMALL",
  "bCAPITAL LETTER N WITH CEDILLAbqSMALLbCAPITAL LETTER N WITH CARONbqSMALL",
  "ePRECEDED BY APOSTROPHEbCAPITAL LETTER ENGboSMALLbCAPITAL LETTER O WITH MACRONbqSMALL",
  "bCAPITAL LETTER O WITH BREVEbqSMALLbCAPITAL LETTER O WITH DOUBLE ACUTEbrSMALL",
  "bCAPITAL LIGATURE OEboSMALLbCAPITAL LETTER R WITH ACUTEbqSMALLbCAPITAL LETTER R WITH CEDILLA",
  "bqSMALLbCAPITAL LETTER R WITH CARONbqSMALLbCAPITAL LETTER S WITH ACUTEbqSMALL",
  "bCAPITAL LETTER S WITH CIRCUMFLEXbqSMALLbCAPITAL LETTER S WITH CEDILLAbqSMALL",
  "bCAPITAL LETTER S WITH CARONbqSMALLbCAPITAL LETTER T WITH CEDILLAbqSMALL",
  "bCAPITAL LETTER T WITH CARONbqSMALLbCAPITAL LETTER T WITH STROKEbqSMALL",
  "bCAPITAL LETTER U WITH TILDEbqSMALLbCAPITAL LETTER U WITH MACRONbqSMALL",
  "bCAPITAL LETTER U WITH BREVEbqSMALLbCAPITAL LETTER U WITH RING ABOVEbrSMALL",
  "bCAPITAL LETTER U WITH DOUBLE ACUTEbrSMALLbCAPITAL LETTER U WITH OGONEKbqSMALL",
  "bCAPITAL LETTER W WITH CIRCUMFLEXbqSMALLboCAPITAL LETTER YbqSMALL",
  "bCAPITAL LETTER Y WITH DIAERESISdZ WITH ACUTEbqSMALLbCAPITAL LETTER Z WITH DOT ABOVEbrSMALL",
  "bCAPITAL LETTER Z WITH CARONbqSMALLdLONG SdB WITH STROKEbCAPITAL LETTER B WITH HOOKfTOPBAR",
  "bqSMALLbCAPITAL LETTER TONE SIXbpSMALLbCAPITAL LETTER OPEN OdC WITH HOOKbqSMALL",
  "bCAPITAL LETTER AFRICAN DdD WITH HOOKfTOPBARbqSMALLdTURNED DELTAbCAPITAL LETTER REVERSED E",
  "dSCHWAdOPEN EdF WITH HOOKbqSMALLboCAPITAL LETTER GdGAMMAbSMALL LETTER HVbCAPITAL LETTER IOTA",
  "dI WITH STROKEdK WITH HOOKbqSMALLdL WITH BARdLAMBDA WITH STROKEbCAPITAL LETTER TURNED M",
  "dN WITH LEFT HOOKbSMALL LETTER N WITH LONG RIGHT LEGbCAPITAL LETTER O WITH MIDDLE TILDEfHORN",
  "bqSMALLbCAPITAL LETTER OIboSMALLbCAPITAL LETTER P WITH HOOKbqSMALLbLETTER YR",
  "bCAPITAL LETTER TONE TWObpSMALLbCAPITAL LETTER ESHbLETTER REVERSED ESH LOOP",
  "bSMALL LETTER T WITH PALATAL HOOKbnCAPITAL LETTER T WITHbqSMALL",
  "bnCAPITAL LETTER T WITH RETROFLEXdU WITH HORNbqSMALLbCAPITAL LETTER UPSILONdV WITH HOOKdoY",
  "bqSMALLbCAPITAL LETTER Z WITH STROKEbqSMALLbCAPITAL LETTER EZHeREVERSEDbpSMALLeWITH TAIL",
  "bLETTER TWO WITH STROKEbCAPITAL LETTER TONE FIVEbpSMALL",
  "bLETTER INVERTED GLOTTAL STOP WITH STROKEcWYNNcDENTAL CLICKcnLATERALcnALVEOLARcnRETROFLEX",
  "bCAPITAL LETTER DZ WITH CARONdoD WITH SMALL LETTER ZboSMALL LETTER DZbCAPITAL LETTER LJ",
  "dL WITH SMALL LETTER JbSMALL LETTER LJbCAPITAL LETTER NJdN WITH SMALL LETTER J",
  "bSMALL LETTER NJbCAPITAL LETTER A WITH CARONbqSMALLboCAPITAL LETTER IbqSMALL",
  "boCAPITAL LETTER ObqSMALLboCAPITAL LETTER UbqSMALLbCAPITAL LETTER U WITH DIAERESIS AND MACRON",
  "bsSMALLbCAPITAL LETTER U WITH DIAERESIS AND ACUTEbsSMALL",
  "bCAPITAL LETTER U WITH DIAERESIS AND CARONbsSMALLbCAPITAL LETTER U WITH DIAERESIS AND GRAVE",
  "bsSMALLdTURNED EbCAPITAL LETTER A WITH DIAERESIS AND MACRONbsSMALL",
  "boCAPITAL LETTER A WITH DOT ABOVEbtSMALLbnCAPITAL LETTER AE WITHbqSMALL",
  "bCAPITAL LETTER G WITH STROKEbqSMALLbCAPITAL LETTER G WITH CARONbqSMALLboCAPITAL LETTER K",
  "bqSMALLbCAPITAL LETTER O WITH OGONEKbqSMALLbCAPITAL LETTER O WITH OGONEK AND MACRONbsSMALL",
  "bCAPITAL LETTER EZH WITH CARONbqSMALLdoJbCAPITAL LETTER DZdD WITH SMALL LETTER Z",
  "bSMALL LETTER DZbCAPITAL LETTER G WITH ACUTEbqSMALLbCAPITAL LETTER HWAIRdWYNNdN WITH GRAVE",
  "bqSMALLbCAPITAL LETTER A WITH RING ABOVE AND ACUTEbtSMALLbnCAPITAL LETTER AE WITHbqSMALL",
  "bnCAPITAL LETTER O WITH STROKE ANDbsSMALLbCAPITAL LETTER A WITH DOUBLE GRAVEbrSMALL",
  "bCAPITAL LETTER A WITH INVERTED BREVEbrSMALLbCAPITAL LETTER E WITH DOUBLE GRAVEbrSMALL",
  "bCAPITAL LETTER E WITH INVERTED BREVEbrSMALLbCAPITAL LETTER I WITH DOUBLE GRAVEbrSMALL",
  "bCAPITAL LETTER I WITH INVERTED BREVEbrSMALLbCAPITAL LETTER O WITH DOUBLE GRAVEbrSMALL",
  "bCAPITAL LETTER O WITH INVERTED BREVEbrSMALLbCAPITAL LETTER R WITH DOUBLE GRAVEbrSMALL",
  "bCAPITAL LETTER R WITH INVERTED BREVEbrSMALLbCAPITAL LETTER U WITH DOUBLE GRAVEbrSMALL",
  "bCAPITAL LETTER U WITH INVERTED BREVEbrSMALLbCAPITAL LETTER S WITH COMMA BELOWbrSMALL",
  "bpCAPITAL LETTER TbrSMALLbCAPITAL LETTER YOGHboSMALLbCAPITAL LETTER H WITH CARONbqSMALL",
  "bCAPITAL LETTER N WITH LONG RIGHT LEGbSMALL LETTER D WITH CURLbCAPITAL LETTER OUboSMALL",
  "bCAPITAL LETTER Z WITH HOOKbqSMALLbCAPITAL LETTER A WITH DOT ABOVEbrSMALL",
  "bCAPITAL LETTER E WITH CEDILLAbqSMALLbCAPITAL LETTER O WITH DIAERESIS AND MACRONbsSMALL",
  "boCAPITAL LETTER O WITH TILDEbsSMALLbCAPITAL LETTER O WITH DOT ABOVEbrSMALL",
  "bCAPITAL LETTER O WITH DOT ABOVE AND MACRONbtSMALLbnCAPITAL LETTER Y WITHbqSMALLdL WITH CURL",
  "doNdoTdDOTLESS JdDB DIGRAPHdnQPbCAPITAL LETTER A WITH STROKEdoCbqSMALL",
  "bCAPITAL LETTER L WITH BARdT WITH DIAGONAL STROKEbSMALL LETTER S WITH SWASH TAILdpZ",
  "bCAPITAL LETTER GLOTTAL STOPbpSMALLbCAPITAL LETTER B WITH STROKEdU BARdTURNED VdE WITH STROKE",
  "bqSMALLboCAPITAL LETTER JbqSMALLbCAPITAL LETTER SMALL Q WITH HOOK TAILbqSMALL LETTER",
  "bCAPITAL LETTER R WITH STROKEbqSMALLboCAPITAL LETTER YbqSMALLdTURNED AdALPHAdnTURNED",
  "dB WITH HOOKdOPEN OdC WITH CURLdD WITH TAILfHOOKdREVERSED EdSCHWAeWITH HOOKdOPEN EdoREVERSED",
  "gWITH HOOKdCLOSED REVERSED OPEN EdDOTLESS J WITH STROKEdG WITH HOOKdSCRIPT G",
  "bnLETTER SMALL CAPITALbSMALL LETTER GAMMAdRAMS HORNdTURNED HdH WITH HOOKdoHENGdI WITH STROKE",
  "dIOTAbLETTER SMALL CAPITAL IbSMALL LETTER L WITH MIDDLE TILDEfBELTfRETROFLEX HOOKdLEZH",
  "dTURNED MfWITH LONG LEGdM WITH HOOKdnN WITH LEFTfnRETROFLEXbLETTER SMALL CAPITAL N",
  "bSMALL LETTER BARRED ObLETTER SMALL CAPITAL OEbSMALL LETTER CLOSED OMEGAdPHIdTURNED R",
  "fWITH LONG LEGgHOOKdR WITH LONG LEGfTAILfFISHHOOKdpREVERSEDbLETTER SMALL CAPITAL RenINVERTED",
  "bSMALL LETTER S WITH HOOKdESHdDOTLESS J WITH STROKE AND HOOKdSQUAT REVERSED ESHdESH WITH CURL",
  "dTURNED TdT WITH RETROFLEX HOOKdU BARdUPSILONdV WITH HOOKdTURNED VeWeYbnLETTER SMALL CAPITAL",
  "bSMALL LETTER Z WITH RETROFLEX HOOKfCURLdEZHeWITH CURLbLETTER GLOTTAL STOP",
  "cPHARYNGEAL VOICED FRICATIVEcINVERTED GLOTTAL STOPcSTRETCHED CcBILABIAL CLICKcSMALL CAPITAL B",
  "bSMALL LETTER CLOSED OPEN EbLETTER SMALL CAPITAL G WITH HOOKeH",
  "bSMALL LETTER J WITH CROSSED-TAILdTURNED KbLETTER SMALL CAPITAL LbSMALL LETTER Q WITH HOOK",
  "bLETTER GLOTTAL STOP WITH STROKEcqREVERSEDbSMALL LETTER DZ DIGRAPHdnDEZHdDZ DIGRAPH WITH CURL",
  "dTS DIGRAPHdnTESHdTC DIGRAPH WITH CURLdFENG DIGRAPHdnLSdnLZbLETTER BILABIAL PERCUSSIVE",
  "cnBIDENTALbSMALL LETTER TURNED H WITH FISHHOOKhAND TAILaMODIFIER LETTER SMALL HeWITH HOOKdJdR",
  "dnTURNEDfWITH HOOKdCAPITAL INVERTED RdWdYcPRIMEcnDOUBLEcTURNED COMMAcAPOSTROPHE",
  "cREVERSED COMMAcRIGHT HALF RINGcoLEFTcGLOTTAL STOPcoREVERSEDcLEFT ARROWHEADcnRIGHTcnUPcnDOWN",
  "cCIRCUMFLEX ACCENTaCARONaMODIFIER LETTER VERTICAL LINEcMACRONcACUTE ACCENTcnGRAVE",
  "cLOW VERTICAL LINEdMACRONdGRAVE ACCENTdnACUTEcTRIANGULAR COLONcoHALFcCENTRED RIGHT HALF RING",
  "doLEFTcUP TACKcnDOWNcPLUS SIGNcnMINUSaBREVEaDOT ABOVEanRINGaOGONEKaSMALL TILDE",
  "aDOUBLE ACUTE ACCENTaMODIFIER LETTER RHOTIC HOOKcCROSS ACCENTcSMALL GAMMAdLdSdX",
  "dREVERSED GLOTTAL STOPcEXTRA-HIGH TONE BARcoHIGHcoMIDcoLOWcoEXTRA-LOWcYIN DEPARTING TONE MARK",
  "cpYANGcVOICINGcUNASPIRATEDcDOUBLE APOSTROPHEcLOW DOWN ARROWHEADdnUPdnLEFTdnRIGHTdRING",
  "cMIDDLE GRAVE ACCENTdoDOUBLEenACUTEcLOW TILDEcRAISED COLONcBEGIN HIGH TONEcoENDcnBEGIN LOW",
  "coENDcSHELFcnOPENcLOW LEFT ARROWaCOMBINING GRAVE ACCENTbnACUTEbnCIRCUMFLEXbTILDEbMACRON",
  "bOVERLINEbBREVEbDOT ABOVEbDIAERESISbHOOK ABOVEbnRINGbDOUBLE ACUTE ACCENTbCARON",
  "bVERTICAL LINE ABOVEbpDOUBLEcGRAVE ACCENTbCANDRABINDUbINVERTED BREVEbTURNED COMMA ABOVEbo",
  "boREVERSEDbCOMMA ABOVE RIGHTbGRAVE ACCENT BELOWboACUTEbnLEFT TACKboRIGHTbLEFT ANGLE ABOVE",
  "bHORNbLEFT HALF RING BELOWbnUP TACKboDOWNbnPLUS SIGNboMINUSbnPALATALIZED HOOKboRETROFLEXbnDOT",
  "bnDIAERESISbnRINGbnCOMMAbCEDILLAbOGONEKbVERTICAL LINE BELOWbnBRIDGEbnINVERTED DOUBLE ARCH",
  "bnCARONbnCIRCUMFLEX ACCENTbnBREVEboINVERTEDbnTILDEbnMACRONbLOW LINEboDOUBLEbTILDE OVERLAY",
  "bnSHORT STROKEboLONGbnSHORT SOLIDUSboLONGbRIGHT HALF RING BELOWbnINVERTED BRIDGEbnSQUARE",
  "bnSEAGULLbX ABOVEbVERTICAL TILDEbDOUBLE OVERLINEbGRAVE TONE MARKboACUTEbGREEK PERISPOMENI",
  "cKORONIScDIALYTIKA TONOScYPOGEGRAMMENIbBRIDGE ABOVEbEQUALS SIGN BELOWbnDOUBLE VERTICAL LINE",
  "bnLEFT ANGLEbNOT TILDE ABOVEbnHOMOTHETICbnALMOST EQUAL TObLEFT RIGHT ARROW BELOWboUPWARDS",
  "bGRAPHEME JOINERbRIGHT ARROWHEAD ABOVEbnLEFT HALF RINGbFERMATAbX BELOWbnLEFT ARROWHEADboRIGHT",
  "dnAND UP ARROWHEADcHALF RING ABOVEbDOT ABOVE RIGHTbASTERISK BELOWbnDOUBLE RINGbZIGZAG ABOVE",
  "bDOUBLE BREVE BELOWdcMACRONdBELOWcTILDEcINVERTED BREVEcRIGHTWARDS ARROW BELOW",
  "bLATIN SMALL LETTER AeEeIeOeUeCeDeHeMeReTeVeXaGREEK CAPITAL LETTER HETAboSMALL",
  "bCAPITAL LETTER ARCHAIC SAMPIbpSMALLbNUMERAL SIGNboLOWERbCAPITAL LETTER PAMPHYLIAN DIGAMMA",
  "bpSMALL=37AbYPOGEGRAMMENIbSMALL REVERSED LUNATE SIGMA SYMBOLcpDOTTEDcqREVERSEDbQUESTION MARK",
  "bCAPITAL LETTER YOT=384bTONOSbnDIALYTIKAbnCAPITAL LETTER ALPHA WITHbANO TELEIA",
  "bCAPITAL LETTER EPSILON WITH TONOSdoETAdoIOTA=38CdoOMICRON=38EdoUPSILONdoOMEGA",
  "bnSMALL LETTER IOTA WITH DIALYTIKA ANDbCAPITAL LETTER ALPHAdBETAdGAMMAdDELTAdEPSILONdZETAdETA",
  "dTHETAdIOTAdKAPPAdLAMDAdMUdNUdXIdOMICRONdPIdRHO=3A3dSIGMAdTAUdUPSILONdPHIdCHIdPSIdOMEGA",
  "dIOTA WITH DIALYTIKAdoUPSILONbSMALL LETTER ALPHA WITH TONOSdoEPSILONdoETAdoIOTA",
  "dnUPSILON WITH DIALYTIKA ANDdALPHAdBETAdGAMMAdDELTAdEPSILONdZETAdETAdTHETAdIOTAdKAPPAdLAMDA",
  "dMUdNUdXIdOMICRONdPIdRHOdFINAL SIGMAdndTAUdUPSILONdPHIdCHIdPSIdOMEGAdIOTA WITH DIALYTIKA",
  "doUPSILONdOMICRON WITH TONOSdoUPSILONdoOMEGAbCAPITAL KAI SYMBOLbnBETAbnTHETA",
  "bnUPSILON WITH HOOKdoACUTE ANDdpDIAERESISbnPHIbnPIbnKAIbLETTER ARCHAIC KOPPAbpSMALL",
  "bLETTER STIGMAboSMALLbLETTER DIGAMMAboSMALLbLETTER KOPPAboSMALLbLETTER SAMPIboSMALL",
  "aCOPTIC CAPITAL LETTER SHEIboSMALLbCAPITAL LETTER FEIboSMALLbCAPITAL LETTER KHEIboSMALL",
  "bCAPITAL LETTER HORIboSMALLbCAPITAL LETTER GANGIAboSMALLbCAPITAL LETTER SHIMAboSMALL",
  "bCAPITAL LETTER DEIboSMALLaGREEK KAPPA SYMBOLbnRHObnLUNATE SIGMAbLETTER YOT",
  "bCAPITAL THETA SYMBOLbnLUNATE EPSILONbpREVERSEDbCAPITAL LETTER SHOboSMALL",
  "bCAPITAL LUNATE SIGMA SYMBOLcLETTER SANboSMALLbRHO WITH STROKE SYMBOL",
  "bnCAPITAL REVERSED LUNATE SIGMAcpDOTTEDcqREVERSEDaCYRILLIC CAPITAL LETTER IE WITH GRAVEdIO",
  "dDJEdGJEdUKRAINIAN IEdDZEdBYELORUSSIAN-UKRAINIAN IdYIdJEdLJEdNJEdTSHEdKJEdI WITH GRAVE",
  "dSHORT UdDZHEdAdBEdVEdGHEdDEdIEdZHEdZEdIdnSHORTdKAdELdEMdENdOdPEdERdESdTEdUdEFdHAdTSEdCHEdSHA",
  "dSHCHAdHARD SIGNdYERUdSOFT SIGNdEdYUdYAbSMALL LETTER AdBEdVEdGHEdDEdIEdZHEdZEdIdnSHORTdKAdEL",
  "dEMdENdOdPEdERdESdTEdUdEFdHAdTSEdCHEdSHAdSHCHAdHARD SIGNdYERUdSOFT SIGNdEdYUdYAdIE WITH GRAVE",
  "dIOdDJEdGJEdUKRAINIAN IEdDZEdBYELORUSSIAN-UKRAINIAN IdYIdJEdLJEdNJEdTSHEdKJEdI WITH GRAVE",
  "dSHORT UdDZHEbCAPITAL LETTER OMEGAboSMALLbCAPITAL LETTER YATboSMALLbCAPITAL LETTER IOTIFIED E",
  "bpSMALLbCAPITAL LETTER LITTLE YUSbpSMALLboCAPITAL LETTER IOTIFIEDbqSMALLbnCAPITAL LETTER BIG",
  "bpSMALLboCAPITAL LETTER IOTIFIEDbqSMALLbCAPITAL LETTER KSIboSMALLbCAPITAL LETTER PSIboSMALL",
  "bCAPITAL LETTER FITAboSMALLbCAPITAL LETTER IZHITSAboSMALL",
  "bCAPITAL LETTER IZHITSA WITH DOUBLE GRAVE ACCENTbsSMALLbCAPITAL LETTER UKboSMALL",
  "bCAPITAL LETTER ROUND OMEGAbpSMALLbCAPITAL LETTER OMEGA WITH TITLObqSMALLbCAPITAL LETTER OT",
  "boSMALLbCAPITAL LETTER KOPPAboSMALLbTHOUSANDS SIGNaCOMBINING CYRILLIC TITLOcPALATALIZATION",
  "cDASIA PNEUMATAcnPSILIcPOKRYTIEcHUNDRED THOUSANDS SIGNcnMILLIONS",
  "aCYRILLIC CAPITAL LETTER SHORT I WITH TAILbrSMALLbCAPITAL LETTER SEMISOFT SIGNbpSMALL",
  "bCAPITAL LETTER ER WITH TICKbqSMALLbCAPITAL LETTER GHE WITH UPTURNbqSMALL",
  "bCAPITAL LETTER GHE WITH STROKEbqSMALLbCAPITAL LETTER GHE WITH MIDDLE HOOKbrSMALL",
  "bCAPITAL LETTER ZHE WITH DESCENDERbqSMALLboCAPITAL LETTER ZEbqSMALLboCAPITAL LETTER KAbqSMALL",
  "bCAPITAL LETTER KA WITH VERTICAL STROKEbrSMALLbnCAPITAL LETTER KA WITHbqSMALL",
  "bCAPITAL LETTER BASHKIR KAbpSMALLbCAPITAL LETTER EN WITH DESCENDERbqSMALL",
  "bCAPITAL LIGATURE EN GHEbpSMALLbCAPITAL LETTER PE WITH MIDDLE HOOKbrSMALL",
  "bCAPITAL LETTER ABKHASIAN HAbpSMALLbCAPITAL LETTER ES WITH DESCENDERbqSMALL",
  "boCAPITAL LETTER TEbqSMALLbCAPITAL LETTER STRAIGHT UbpSMALL",
  "bCAPITAL LETTER STRAIGHT U WITH STROKEbrSMALLbCAPITAL LETTER HA WITH DESCENDERbqSMALL",
  "bCAPITAL LIGATURE TE TSEbpSMALLbCAPITAL LETTER CHE WITH DESCENDERbqSMALL",
  "bCAPITAL LETTER CHE WITH VERTICAL STROKEbrSMALLbCAPITAL LETTER SHHAboSMALL",
  "bCAPITAL LETTER ABKHASIAN CHEbpSMALLbCAPITAL LETTER ABKHASIAN CHE WITH DESCENDERbrSMALL",
  "bLETTER PALOCHKAbCAPITAL LETTER ZHE WITH BREVEbqSMALLbCAPITAL LETTER KA WITH HOOKbqSMALL",
  "bCAPITAL LETTER EL WITH TAILbqSMALLbCAPITAL LETTER EN WITH HOOKbqSMALL",
  "bCAPITAL LETTER EN WITH TAILbqSMALLbCAPITAL LETTER KHAKASSIAN CHEbpSMALL",
  "bCAPITAL LETTER EM WITH TAILbqSMALLdPALOCHKAbCAPITAL LETTER A WITH BREVEbqSMALL",
  "bCAPITAL LETTER A WITH DIAERESISbqSMALLbCAPITAL LIGATURE A IEbpSMALL",
  "bCAPITAL LETTER IE WITH BREVEbqSMALLbCAPITAL LETTER SCHWAboSMALL",
  "bCAPITAL LETTER SCHWA WITH DIAERESISbqSMALLboCAPITAL LETTER ZHEbqSMALLboCAPITAL LETTER ZE",
  "bqSMALLbCAPITAL LETTER ABKHASIAN DZEbpSMALLbCAPITAL LETTER I WITH MACRONbqSMALL",
  "bCAPITAL LETTER I WITH DIAERESISbqSMALLboCAPITAL LETTER ObqSMALLbCAPITAL LETTER BARRED O",
  "bpSMALLbCAPITAL LETTER BARRED O WITH DIAERESISbrSMALLboCAPITAL LETTER EbqSMALL",
  "bCAPITAL LETTER U WITH MACRONbqSMALLbCAPITAL LETTER U WITH DIAERESISbqSMALL",
  "bCAPITAL LETTER U WITH DOUBLE ACUTEbrSMALLbCAPITAL LETTER CHE WITH DIAERESISbqSMALL",
  "bCAPITAL LETTER GHE WITH DESCENDERbqSMALLbCAPITAL LETTER YERU WITH DIAERESISbqSMALL",
  "bCAPITAL LETTER GHE WITH STROKE AND HOOKbsSMALLbnCAPITAL LETTER HA WITHbqSMALL",
  "bCAPITAL LETTER HA WITH STROKEbqSMALLbCAPITAL LETTER KOMI DEbpSMALLbCAPITAL LETTER KOMI DJE",
  "bpSMALLbCAPITAL LETTER KOMI ZJEbpSMALLbCAPITAL LETTER KOMI DZJEbpSMALL",
  "bCAPITAL LETTER KOMI LJEbpSMALLbCAPITAL LETTER KOMI NJEbpSMALLbCAPITAL LETTER KOMI SJEbpSMALL",
  "bCAPITAL LETTER KOMI TJEbpSMALLbCAPITAL LETTER REVERSED ZEbpSMALLbCAPITAL LETTER EL WITH HOOK",
  "bqSMALLbCAPITAL LETTER LHAboSMALLbCAPITAL LETTER RHAboSMALLbCAPITAL LETTER YAEboSMALL",
  "bCAPITAL LETTER QAboSMALLbCAPITAL LETTER WEboSMALLbCAPITAL LETTER ALEUT KAbpSMALL",
  "bCAPITAL LETTER EL WITH MIDDLE HOOKbrSMALLbpCAPITAL LETTER ENbrSMALL",
  "bCAPITAL LETTER PE WITH DESCENDERbqSMALLboCAPITAL LETTER SHHAbqSMALL",
  "bCAPITAL LETTER EN WITH LEFT HOOKbrSMALLbCAPITAL LETTER DZZHEboSMALLbCAPITAL LETTER DCHE",
  "boSMALLbCAPITAL LETTER EL WITH DESCENDERbqSMALL=531aARMENIAN CAPITAL LETTER AYBdBENdGIMdDA",
  "dECHdZAdEHdETdTOdZHEdINIdLIWNdXEHdCAdKENdHOdJAdGHADdCHEHdMENdYIdNOWdSHAdVOdCHAdPEHdJHEHdRA",
  "dSEHdVEWdTIWNdREHdCOdYIWNdPIWRdKEHdOHdFEH=559bMODIFIER LETTER LEFT HALF RINGbAPOSTROPHE",
  "bEMPHASIS MARKbnEXCLAMATIONbCOMMAbQUESTION MARKbnABBREVIATIONbSMALL LETTER TURNED AYBdndBEN",
  "dGIMdDAdECHdZAdEHdETdTOdZHEdINIdLIWNdXEHdCAdKENdHOdJAdGHADdCHEHdMENdYIdNOWdSHAdVOdCHAdPEH",
  "dJHEHdRAdSEHdVEWdTIWNdREHdCOdYIWNdPIWRdKEHdOHdFEHcLIGATURE ECH YIWNcLETTER YI WITH STROKE",
  "bFULL STOPbHYPHEN=58DaRIGHT-FACING ARMENIAN ETERNITY SIGNapLEFT-FACINGanARMENIAN DRAM=591",
  "aHEBREW ACCENT ETNAHTAcSEGOLcSHALSHELETcZAQEF QATANdGADOLcTIPEHAcREVIAcZARQAcPASHTAcYETIV",
  "cTEVIRcGERESHdMUQDAMcGERSHAYIMcQARNEY PARAcTELISHA GEDOLAcPAZERcATNAH HAFUKHcMUNAHcMAHAPAKH",
  "cMERKHAdKEFULAcDARGAcQADMAcTELISHA QETANAcYERAH BEN YOMOcOLEcILUYcDEHIcZINOR",
  "bMARK MASORA CIRCLEbPOINT SHEVAcHATAF SEGOLdPATAHdQAMATScHIRIQcTSEREcSEGOLcPATAHcQAMATScHOLAM",
  "dHASER FOR VAVcQUBUTScDAGESH OR MAPIQcMETEGbPUNCTUATION MAQAFbPOINT RAFEbPUNCTUATION PASEQ",
  "bPOINT SHIN DOTcnSINbPUNCTUATION SOF PASUQbMARK UPPER DOTcnLOWERbPUNCTUATION NUN HAFUKHA",
  "bPOINT QAMATS QATAN=5D0bLETTER ALEFcBETcGIMELcDALETcHEcVAVcZAYINcHETcTETcYODcFINAL KAFcn",
  "cLAMEDcFINAL MEMcncFINAL NUNcncSAMEKHcAYINcFINAL PEcncFINAL TSADIcncQOFcRESHcSHINcTAV=5EF",
  "bYOD TRIANGLEbLIGATURE YIDDISH DOUBLE VAVdVAV YODdnDOUBLEbPUNCTUATION GERESHcGERSHAYIM"
]

end ApiRouter.Text.Name
