set_option autoImplicit false

/-! # Names of characters

Tiles, cards, pictures, and tags. -/

namespace ApiRouter.Text.Name

/-- The names of the characters from 1F000 to E01EF. -/
def pictures : List String := [
  "=1F000aMAHJONG TILE EAST WINDcnSOUTHcnWESTcnNORTHcRED DRAGONcnGREENcnWHITEcONE OF CHARACTERS",
  "coTWOcoTHREEcoFOURcoFIVEcoSIXcoSEVENcoEIGHTcoNINEcONE OF BAMBOOScoTWOcoTHREEcoFOURcoFIVEcoSIX",
  "coSEVENcoEIGHTcoNINEcONE OF CIRCLEScoTWOcoTHREEcoFOURcoFIVEcoSIXcoSEVENcoEIGHTcoNINEcPLUM",
  "cORCHIDcBAMBOOcCHRYSANTHEMUMcSPRINGcSUMMERcAUTUMNcWINTERcJOKERcBACK=1F030",
  "anDOMINO TILE HORIZONTALcHORIZONTAL-00-00+6cHORIZONTAL-01-00+6cHORIZONTAL-02-00+6",
  "cHORIZONTAL-03-00+6cHORIZONTAL-04-00+6cHORIZONTAL-05-00+6cHORIZONTAL-06-00+6cVERTICAL BACK",
  "cVERTICAL-00-00+6cVERTICAL-01-00+6cVERTICAL-02-00+6cVERTICAL-03-00+6cVERTICAL-04-00+6",
  "cVERTICAL-05-00+6cVERTICAL-06-00+6=1F0A0aPLAYING CARD BACKcACE OF SPADEScoTWOcoTHREEcoFOUR",
  "coFIVEcoSIXcoSEVENcoEIGHTcoNINEcoTENcoJACKcoKNIGHTcoQUEENcoKING=1F0B1cACE OF HEARTScoTWO",
  "coTHREEcoFOURcoFIVEcoSIXcoSEVENcoEIGHTcoNINEcoTENcoJACKcoKNIGHTcoQUEENcoKINGcRED JOKER=1F0C1",
  "cACE OF DIAMONDScoTWOcoTHREEcoFOURcoFIVEcoSIXcoSEVENcoEIGHTcoNINEcoTENcoJACKcoKNIGHTcoQUEEN",
  "coKINGcBLACK JOKER=1F0D1cACE OF CLUBScoTWOcoTHREEcoFOURcoFIVEcoSIXcoSEVENcoEIGHTcoNINEcoTEN",
  "coJACKcoKNIGHTcoQUEENcoKINGcWHITE JOKERcFOOLcTRUMP-1+20=1F100aDIGIT ZERO FULL STOPcCOMMAbnONE",
  "bnTWObnTHREEbnFOURbnFIVEbnSIXbnSEVENbnEIGHTbnNINEaDINGBAT CIRCLED SANS-SERIF DIGIT ZERO",
  "bqNEGATIVEaCIRCLED ZERO WITH SLASHbANTICLOCKWISE ARROWbDOLLAR SIGN WITH OVERLAID BACKSLASH",
  "aPARENTHESIZED LATIN CAPITAL LETTER AeBeCeDeEeFeGeHeIeJeKeLeMeNeOePeQeReSeTeUeVeWeXeYeZ",
  "aTORTOISE SHELL BRACKETED LATIN CAPITAL LETTER SaCIRCLED ITALIC LATIN CAPITAL LETTER CfRbCD",
  "bWZaCOPYLEFT SYMBOLaSQUARED LATIN CAPITAL LETTER AeBeCeDeEeFeGeHeIeJeKeLeMeNeOePeQeReSeTeUeV",
  "eWeXeYeZbHVbMVbSDbSSbPPVbWCaNEGATIVE CIRCLED LATIN CAPITAL LETTER AfBfCfDfEfFfGfHfIfJfKfLfMfN",
  "fOfPfQfRfSfTfUfVfWfXfYfZaRAISED MC SIGNbnMDbnMRaCIRCLED CCbC WITH OVERLAID BACKSLASH",
  "bHUMAN FIGUREaNEGATIVE SQUARED LATIN CAPITAL LETTER AfBfCfDfEfFfGfHfIfJfKfLfMfNfOfPfQfRfSfTfU",
  "fVfWfXfYfZaCROSSED NEGATIVE SQUARED LATIN CAPITAL LETTER PaNEGATIVE SQUARED ICcPAcSAcABcWC",
  "aSQUARE DJaSQUARED CLbCOOLbFREEbIDbNEWbNGbOKbSOSbUP WITH EXCLAMATION MARKbVSbTHREE D",
  "bSECOND SCREENbTWO KbnFOURbnEIGHTbFIVE POINT ONEboSEVENbTWENTY-TWO POINT TWObSIXTY P",
  "bnONE HUNDRED TWENTYbLATIN SMALL LETTER DbHCbHDRbHI-RESbLOSSLESSbSHVbUHDbVODaMASK WORK SYMBOL",
  "=1F1E6aREGIONAL INDICATOR SYMBOL LETTER AeBeCeDeEeFeGeHeIeJeKeLeMeNeOePeQeReSeTeUeVeWeXeYeZ",
  "aSQUARE HIRAGANA HOKAaSQUARED KATAKANA KOKOcSA=1F210bCJK UNIFIED IDEOGRAPH-624B",
  "dIDEOGRAPH-5B57dIDEOGRAPH-53CCbKATAKANA DEbCJK UNIFIED IDEOGRAPH-4E8CdIDEOGRAPH-591A",
  "dIDEOGRAPH-89E3dIDEOGRAPH-5929dIDEOGRAPH-4EA4dIDEOGRAPH-6620dIDEOGRAPH-7121dIDEOGRAPH-6599",
  "dIDEOGRAPH-524DdIDEOGRAPH-5F8CdIDEOGRAPH-518DdIDEOGRAPH-65B0dIDEOGRAPH-521DdIDEOGRAPH-7D42",
  "dIDEOGRAPH-751FdIDEOGRAPH-8CA9dIDEOGRAPH-58F0dIDEOGRAPH-5439dIDEOGRAPH-6F14dIDEOGRAPH-6295",
  "dIDEOGRAPH-6355dIDEOGRAPH-4E00dIDEOGRAPH-4E09dIDEOGRAPH-904AdIDEOGRAPH-5DE6dIDEOGRAPH-4E2D",
  "dIDEOGRAPH-53F3dIDEOGRAPH-6307dIDEOGRAPH-8D70dIDEOGRAPH-6253dIDEOGRAPH-7981dIDEOGRAPH-7A7A",
  "dIDEOGRAPH-5408dIDEOGRAPH-6E80dIDEOGRAPH-6709dIDEOGRAPH-6708dIDEOGRAPH-7533dIDEOGRAPH-5272",
  "dIDEOGRAPH-55B6dIDEOGRAPH-914D=1F240aTORTOISE SHELL BRACKETED CJK UNIFIED IDEOGRAPH-672C",
  "fIDEOGRAPH-4E09fIDEOGRAPH-4E8CfIDEOGRAPH-5B89fIDEOGRAPH-70B9fIDEOGRAPH-6253fIDEOGRAPH-76D7",
  "fIDEOGRAPH-52DDfIDEOGRAPH-6557=1F250aCIRCLED IDEOGRAPH ADVANTAGEcACCEPT=1F260",
  "aROUNDED SYMBOL FOR FUdLUdSHOUdXIdSHUANGXIdCAI=1F300aCYCLONEaFOGGYaCLOSED UMBRELLA",
  "aNIGHT WITH STARSaSUNRISE OVER MOUNTAINSbaCITYSCAPE AT DUSKaSUNSET OVER BUILDINGSaRAINBOW",
  "aBRIDGE AT NIGHTaWATER WAVEaVOLCANOaMILKY WAYaEARTH GLOBE EUROPE-AFRICAcAMERICAS",
  "cASIA-AUSTRALIAaGLOBE WITH MERIDIANSaNEW MOON SYMBOLaoWAXING CRESCENTaoFIRST QUARTER",
  "aoWAXING GIBBOUSaoFULLaoWANING GIBBOUSaoLAST QUARTERaoWANING CRESCENTaCRESCENT MOON",
  "aNEW MOON WITH FACEapFIRST QUARTERaqLASTapFULLaoSUNaGLOWING STARanSHOOTINGaTHERMOMETER",
  "aBLACK DROPLETaWHITE SUNcWITH SMALL CLOUDcnBEHINDeWITH RAINapcSNOWcLIGHTNINGcTORNADOaFOG",
  "aWIND BLOWING FACEaHOT DOGaTACOaBURRITOaCHESTNUTaSEEDLINGaEVERGREEN TREEanDECIDUOUSanPALM",
  "aCACTUSaHOT PEPPERaTULIPaCHERRY BLOSSOMaROSEaHIBISCUSaSUNFLOWERaBLOSSOMaEAR OF MAIZEcRICE",
  "aHERBaFOUR LEAF CLOVERaMAPLE LEAFanFALLENaLEAF FLUTTERING IN WINDaMUSHROOMaTOMATOaAUBERGINE",
  "aGRAPESaMELONaWATERMELONaTANGERINEaLEMONaBANANAaPINEAPPLEaRED APPLEanGREENaPEARaPEACH",
  "aCHERRIESaSTRAWBERRYaHAMBURGERaSLICE OF PIZZAaMEAT ON BONEaPOULTRY LEGaRICE CRACKERbBALL",
  "aCOOKED RICEanCURRY ANDaSTEAMING BOWLaSPAGHETTIaBREADaFRENCH FRIESaROASTED SWEET POTATOaDANGO",
  "aODENaSUSHIaFRIED SHRIMPaFISH CAKE WITH SWIRL DESIGNaSOFT ICE CREAMaSHAVED ICEaICE CREAM",
  "aDOUGHNUTaCOOKIEaCHOCOLATE BARaCANDYaLOLLIPOPaCUSTARDaHONEY POTaSHORTCAKEaBENTO BOX",
  "aPOT OF FOODaCOOKINGaFORK AND KNIFEaTEACUP WITHOUT HANDLEaSAKE BOTTLE AND CUPaWINE GLASS",
  "anCOCKTAILaTROPICAL DRINKaBEER MUGaCLINKING BEER MUGSaBABY BOTTLEaFORK AND KNIFE WITH PLATE",
  "aBOTTLE WITH POPPING CORKaPOPCORNaRIBBONaWRAPPED PRESENTaBIRTHDAY CAKEaJACK-O-LANTERN",
  "aCHRISTMAS TREEaFATHER CHRISTMASaFIREWORKSaFIREWORK SPARKLERaBALLOONaPARTY POPPER",
  "aCONFETTI BALLaTANABATA TREEaCROSSED FLAGSaPINE DECORATIONaJAPANESE DOLLSaCARP STREAMER",
  "aWIND CHIMEaMOON VIEWING CEREMONYaSCHOOL SATCHELaGRADUATION CAPaHEART WITH TIP ON THE LEFT",
  "aBOUQUET OF FLOWERSaMILITARY MEDALaREMINDER RIBBONaMUSICAL KEYBOARD WITH JACKS",
  "aSTUDIO MICROPHONEaLEVEL SLIDERaCONTROL KNOBSaBEAMED ASCENDING MUSICAL NOTESboDESCENDING",
  "aFILM FRAMESaADMISSION TICKETSaCAROUSEL HORSEaFERRIS WHEELaROLLER COASTER",
  "aFISHING POLE AND FISHaMICROPHONEaMOVIE CAMERAaCINEMAaHEADPHONEaARTIST PALETTEaTOP HAT",
  "aCIRCUS TENTaTICKETaCLAPPER BOARDaPERFORMING ARTSaVIDEO GAMEaDIRECT HITaSLOT MACHINE",
  "aBILLIARDSaGAME DIEaBOWLINGaFLOWER PLAYING CARDSaMUSICAL NOTEaMULTIPLE MUSICAL NOTES",
  "aSAXOPHONEaGUITARaMUSICAL KEYBOARDaTRUMPETaVIOLINaMUSICAL SCOREaRUNNING SHIRT WITH SASH",
  "aTENNIS RACQUET AND BALLaSKI AND SKI BOOTaBASKETBALL AND HOOPaCHEQUERED FLAGaSNOWBOARDER",
  "aRUNNERaSURFERaSPORTS MEDALaTROPHYaHORSE RACINGaAMERICAN FOOTBALLanRUGBYaSWIMMER",
  "aWEIGHT LIFTERaGOLFERaRACING MOTORCYCLEbCARaCRICKET BAT AND BALLaVOLLEYBALL",
  "aFIELD HOCKEY STICK AND BALLaICE HOCKEY STICK AND PUCKaTABLE TENNIS PADDLE AND BALL",
  "aSNOW CAPPED MOUNTAINaCAMPINGaBEACH WITH UMBRELLAaBUILDING CONSTRUCTIONaHOUSE BUILDINGS",
  "aCITYSCAPEaDERELICT HOUSE BUILDINGanCLASSICALaDESERTbISLANDaNATIONAL PARKaSTADIUM",
  "aHOUSE BUILDINGbWITH GARDENaOFFICE BUILDINGaJAPANESE POST OFFICEaoEUROPEANaHOSPITALaBANK",
  "aAUTOMATED TELLER MACHINEaHOTELanLOVEaCONVENIENCE STOREaSCHOOLaDEPARTMENT STOREaFACTORY",
  "aIZAKAYA LANTERNaJAPANESE CASTLEanEUROPEANaWHITE PENNANTanBLACKaWAVING WHITE FLAGbnBLACK",
  "aROSETTEanBLACKaLABELaBADMINTON RACQUET AND SHUTTLECOCKaBOW AND ARROWaAMPHORA",
  "aEMOJI MODIFIER FITZPATRICK TYPE-1-2dTYPE-3+3aRATaMOUSEaOXaWATER BUFFALOaCOWaTIGERaLEOPARD",
  "aRABBITaCATaDRAGONaCROCODILEaWHALEaSNAILaSNAKEaHORSEaRAMaGOATaSHEEPaMONKEYaROOSTERaCHICKEN",
  "aDOGaPIGaBOARaELEPHANTaOCTOPUSaSPIRAL SHELLaBUGaANTaHONEYBEEaLADY BEETLEaFISHanTROPICAL",
  "aBLOWFISHaTURTLEaHATCHING CHICKanBABYaoFRONT-FACINGaBIRDaPENGUINaKOALAaPOODLEaDROMEDARY CAMEL",
  "anBACTRIANaDOLPHINaMOUSE FACEanCOWanTIGERanRABBITanCATanDRAGONaSPOUTING WHALEaHORSE FACE",
  "anMONKEYanDOGanPIGanFROGanHAMSTERanWOLFanBEARanPANDAaPIG NOSEaPAW PRINTSaCHIPMUNKaEYESaEYE",
  "aEARaNOSEaMOUTHaTONGUEaWHITE UP POINTING BACKHAND INDEXbpDOWNbpLEFTbpRIGHTaFISTED HAND SIGN",
  "aoWAVINGaoOKanTHUMBS UPbnDOWNanCLAPPING HANDSaoOPENaCROWNaWOMANS HATaEYEGLASSESaNECKTIE",
  "aT-SHIRTaJEANSaDRESSaKIMONOaBIKINIaWOMANS CLOTHESaPURSEaHANDBAGaPOUCHaMANS SHOEanATHLETIC",
  "anHIGH-HEELEDaWOMANS SANDALbBOOTSaFOOTPRINTSaBUST IN SILHOUETTEaoBUSTSaBOYaGIRLaMANaWOMAN",
  "aFAMILYaMAN AND WOMAN HOLDING HANDSaoTWO MENboWOMENaPOLICE OFFICERaWOMAN WITH BUNNY EARS",
  "aBRIDE WITH VEILaPERSON WITH BLOND HAIRaMAN WITH GUA PI MAOcTURBANaOLDER MANbWOMANaBABY",
  "aCONSTRUCTION WORKERaPRINCESSaJAPANESE OGREbGOBLINaGHOSTaBABY ANGELaEXTRATERRESTRIAL ALIEN",
  "aALIEN MONSTERaIMPaSKULLaINFORMATION DESK PERSONaGUARDSMANaDANCERaLIPSTICKaNAIL POLISH",
  "aFACE MASSAGEaHAIRCUTaBARBER POLEaSYRINGEaPILLaKISS MARKaLOVE LETTERaRINGaGEM STONEaKISS",
  "aBOUQUETaCOUPLE WITH HEARTaWEDDINGaBEATING HEARTanBROKENaTWO HEARTSaSPARKLING HEARTanGROWING",
  "aHEART WITH ARROWaBLUE HEARTanGREENanYELLOWanPURPLEaHEART WITH RIBBONaREVOLVING HEARTS",
  "aHEART DECORATIONaDIAMOND SHAPE WITH A DOT INSIDEaELECTRIC LIGHT BULBaANGER SYMBOLaBOMB",
  "aSLEEPING SYMBOLanCOLLISIONanSPLASHING SWEATaDROPLETaDASH SYMBOLaPILE OF POOaFLEXED BICEPS",
  "aDIZZY SYMBOLaSPEECH BALLOONanTHOUGHTaWHITE FLOWERaHUNDRED POINTS SYMBOLaMONEY BAG",
  "aCURRENCY EXCHANGEaHEAVY DOLLAR SIGNaCREDIT CARDaBANKNOTE WITH YEN SIGNcnDOLLARcnEUROcnPOUND",
  "aMONEY WITH WINGSaCHART WITH UPWARDS TREND AND YEN SIGNaSEATaPERSONAL COMPUTERaBRIEFCASE",
  "aMINIDISCaFLOPPY DISKaOPTICAL DISCaDVDaFILE FOLDERaoOPENaPAGE WITH CURLbFACING UPaCALENDAR",
  "anTEAR-OFFaCARD INDEXaCHART WITH UPWARDS TRENDcnDOWNWARDSaBAR CHARTaCLIPBOARDaPUSHPINanROUND",
  "aPAPERCLIPaSTRAIGHT RULERanTRIANGULARaBOOKMARK TABSaLEDGERaNOTEBOOKbWITH DECORATIVE COVER",
  "aCLOSED BOOKanOPENanGREENanBLUEanORANGEaBOOKSaNAME BADGEaSCROLLaMEMOaTELEPHONE RECEIVERaPAGER",
  "aFAX MACHINEaSATELLITE ANTENNAaPUBLIC ADDRESS LOUDSPEAKERaCHEERING MEGAPHONEaOUTBOX TRAY",
  "anINBOXaPACKAGEaE-MAIL SYMBOLaINCOMING ENVELOPEaENVELOPE WITH DOWNWARDS ARROW ABOVE",
  "aCLOSED MAILBOX WITH LOWERED FLAGdnRAISEDaqOPENdnLOWEREDaPOSTBOXaPOSTAL HORNaNEWSPAPER",
  "aMOBILE PHONEcWITH RIGHTWARDS ARROW AT LEFTaVIBRATION MODEaMOBILE PHONE OFFaNO MOBILE PHONES",
  "aANTENNA WITH BARSaCAMERAbWITH FLASHaVIDEO CAMERAaTELEVISIONaRADIOaVIDEOCASSETTE",
  "aFILM PROJECTORaPORTABLE STEREOaPRAYER BEADSaTWISTED RIGHTWARDS ARROWS",
  "anCLOCKWISE RIGHTWARDS AND LEFTWARDS OPEN CIRCLEhWITH CIRCLED ONE OVERLAY",
  "bDOWNWARDS AND UPWARDS OPEN CIRCLE ARROWSasANTICLOCKWISEaLOW BRIGHTNESS SYMBOLaoHIGH",
  "aSPEAKER WITH CANCELLATION STROKEbbWITH ONE SOUND WAVEcTHREE SOUND WAVESaBATTERY",
  "aELECTRIC PLUGaLEFT-POINTING MAGNIFYING GLASSaoRIGHT-POINTINGaLOCK WITH INK PEN",
  "aCLOSED LOCK WITH KEYanaLOCKanOPENaBELLbWITH CANCELLATION STROKEaBOOKMARKaLINK SYMBOL",
  "aRADIO BUTTONaBACK WITH LEFTWARDS ARROW ABOVEaqENDaoON WITH EXCLAMATION MARK WITH LEFT RIGHT",
  "aoSOON WITH RIGHTWARDSaoTOP WITH UPWARDSaNO ONE UNDER EIGHTEEN SYMBOLaKEYCAP TEN",
  "aINPUT SYMBOL FOR LATIN CAPITAL LETTERSenSMALLdNUMBERSdSYMBOLSdLATIN LETTERSaFIRE",
  "aELECTRIC TORCHaWRENCHaHAMMERaNUT AND BOLTaHOCHOaPISTOLaMICROSCOPEaTELESCOPEaCRYSTAL BALL",
  "aSIX POINTED STAR WITH MIDDLE DOTaJAPANESE SYMBOL FOR BEGINNERaTRIDENT EMBLEM",
  "aBLACK SQUARE BUTTONaoWHITEaLARGE RED CIRCLEbnBLUEbORANGE DIAMONDbnBLUEanSMALL ORANGEbnBLUE",
  "aUP-POINTING RED TRIANGLEaoDOWN-POINTINGaoUP-POINTING SMALLapDOWN-POINTING",
  "aLOWER RIGHT SHADOWED WHITE CIRCLEaqUPPERaCIRCLED CROSS POMMEE",
  "aCROSS POMMEE WITH HALF-CIRCLE BELOWcaNOTCHED LEFT SEMICIRCLE WITH THREE DOTSbqRIGHT",
  "aSYMBOL FOR MARKS CHAPTERaWHITE LATIN CROSSaoHEAVYanCELTICaOM SYMBOLaDOVE OF PEACEaKAABA",
  "aMOSQUEaSYNAGOGUEaMENORAH WITH NINE BRANCHESaBOWL OF HYGIEIAaCLOCK FACE ONE OCLOCKcnTWO",
  "cnTHREEcnFOURcnFIVEcnSIXcnSEVENcnEIGHTcnNINEcnTENcnELEVENcnTWELVEcONE-THIRTYcTWO-THIRTY",
  "cTHREE-THIRTYcFOUR-THIRTYcFIVE-THIRTYcSIX-THIRTYcSEVEN-THIRTYcEIGHT-THIRTYcNINE-THIRTY",
  "cTEN-THIRTYcELEVEN-THIRTYcTWELVE-THIRTYaRIGHT SPEAKERcWITH ONE SOUND WAVEdTHREE SOUND WAVES",
  "aBULLHORNbWITH SOUND WAVESaRINGING BELLaBOOKaCANDLEaMANTELPIECE CLOCK",
  "aBLACK SKULL AND CROSSBONESaNO PIRACYaHOLEaMAN IN BUSINESS SUIT LEVITATINGaSLEUTH OR SPY",
  "aDARK SUNGLASSESaSPIDERbWEBaJOYSTICKaMAN DANCINGaLEFT HAND TELEPHONE RECEIVER",
  "aTELEPHONE RECEIVER WITH PAGEaRIGHT HAND TELEPHONE RECEIVERaWHITE TOUCHTONE TELEPHONEaoBLACK",
  "aTELEPHONE ON TOP OF MODEMaCLAMSHELL MOBILE PHONEaBACK OF ENVELOPEanSTAMPED",
  "aENVELOPE WITH LIGHTNINGaFLYING ENVELOPEanPEN OVER STAMPEDaLINKED PAPERCLIPSaBLACK PUSHPIN",
  "aLOWER LEFT PENCILcBALLPOINT PENcnFOUNTAINcPAINTBRUSHcCRAYONaLEFT WRITING HAND",
  "aTURNED OK HAND SIGNaRAISED HAND WITH FINGERS SPLAYEDarREVERSEDbTHUMBS UP SIGNcnDOWN",
  "bVICTORY HANDbHAND WITH MIDDLE FINGER EXTENDED",
  "aRAISED HAND WITH PART BETWEEN MIDDLE AND RING FINGERSaWHITE DOWN POINTING LEFT HAND INDEX",
  "anSIDEWAYS WHITE LEFT POINTINGcoRIGHTboBLACK LEFTcoRIGHTanBLACK LEFT POINTING BACKHANDbpRIGHT",
  "anSIDEWAYS WHITE UP POINTINGcoDOWNboBLACK UPcoDOWNanBLACK UP POINTING BACKHANDbpDOWNbHEART",
  "aDESKTOP COMPUTERaKEYBOARD AND MOUSEaTHREE NETWORKED COMPUTERSaPRINTERaPOCKET CALCULATOR",
  "aBLACK HARD SHELL FLOPPY DISKaqWHITEapSOFTaTAPE CARTRIDGEaWIRED KEYBOARDaONE BUTTON MOUSE",
  "aoTWOaoTHREEaTRACKBALLaOLD PERSONAL COMPUTERaHARD DISKaSCREENaPRINTER ICONanFAXanOPTICAL DISC",
  "aDOCUMENT WITH TEXTdAND PICTUREcnaoFRAMEcTILEScAN XaBLACK FOLDERananOPENaCARD INDEX DIVIDERS",
  "bFILE BOXaFILE CABINETaEMPTY NOTEcPAGEcPADaNOTEbPAGEbPADaEMPTY DOCUMENTbPAGEbPAGESaDOCUMENT",
  "aPAGEaPAGESaWASTEBASKETaSPIRAL NOTE PADbnCALENDARaDESKTOP WINDOWaMINIMIZEaMAXIMIZEaOVERLAP",
  "aCLOCKWISE RIGHT AND LEFT SEMICIRCLE ARROWSaCANCELLATION XaINCREASE FONT SIZE SYMBOL",
  "apDECREASEaCOMPRESSIONaOLD KEYaROLLED-UP NEWSPAPERaPAGE WITH CIRCLED TEXTaSTOCK CHART",
  "aDAGGER KNIFEaLIPSaSPEAKING HEAD IN SILHOUETTEaTHREE RAYS ABOVEcBELOWcLEFTcRIGHT",
  "aLEFT SPEECH BUBBLEaoRIGHTaTWO SPEECH BUBBLESaoTHREEaLEFT THOUGHT BUBBLEaoRIGHTanLEFT ANGER",
  "aoRIGHTanMOODaoLIGHTNINGcaBALLOT BOX WITH BALLOTbSCRIPT XboBOX WITHboBOLDbpBOX WITH",
  "aLIGHT CHECK MARKaBALLOT BOX WITH BOLD CHECKaWORLD MAPaMOUNT FUJIaTOKYO TOWER",
  "aSTATUE OF LIBERTYaSILHOUETTE OF JAPANaMOYAIaGRINNING FACEcWITH SMILING EYES",
  "aFACE WITH TEARS OF JOYaSMILING FACE WITH OPEN MOUTHfAND SMILING EYESgCOLD SWEAT",
  "gTIGHTLY-CLOSED EYESdHALOdHORNSaWINKING FACEaSMILING FACE WITH SMILING EYES",
  "aFACE SAVOURING DELICIOUS FOODaRELIEVED FACEaSMILING FACE WITH HEART-SHAPED EYESdSUNGLASSES",
  "aSMIRKING FACEanNEUTRALanEXPRESSIONLESSanUNAMUSEDaFACE WITH COLD SWEATaPENSIVE FACEanCONFUSED",
  "anCONFOUNDEDanKISSINGaFACE THROWING A KISSaKISSING FACE WITH SMILING EYESdnCLOSED",
  "aFACE WITH STUCK-OUT TONGUEeAND WINKING EYEfTIGHTLY-CLOSED EYESaDISAPPOINTED FACEanWORRIED",
  "anANGRYanPOUTINGanCRYINGanPERSEVERINGaFACE WITH LOOK OF TRIUMPH",
  "aDISAPPOINTED BUT RELIEVED FACEaFROWNING FACE WITH OPEN MOUTHaANGUISHED FACEanFEARFULanWEARY",
  "anSLEEPYanTIREDanGRIMACINGanLOUDLY CRYINGaFACE WITH OPEN MOUTHaHUSHED FACE",
  "aFACE WITH OPEN MOUTH AND COLD SWEATbSCREAMING IN FEARaASTONISHED FACEanFLUSHEDanSLEEPING",
  "anDIZZYaFACE WITHOUT MOUTHbWITH MEDICAL MASKaGRINNING CAT FACE WITH SMILING EYES",
  "aCAT FACE WITH TEARS OF JOYaSMILING CAT FACE WITH OPEN MOUTHeHEART-SHAPED EYES",
  "aCAT FACE WITH WRY SMILEaKISSING CAT FACE WITH CLOSED EYESaPOUTING CAT FACEaoCRYINGaoWEARY",
  "anSLIGHTLY FROWNINGbnSMILINGanUPSIDE-DOWNaFACE WITH ROLLING EYEScNO GOOD GESTUREcnOK",
  "aPERSON BOWING DEEPLYaSEE-NO-EVIL MONKEYanHEAR-NO-EVILanSPEAK-NO-EVIL",
  "aHAPPY PERSON RAISING ONE HANDaPERSON RAISING BOTH HANDS IN CELEBRATIONbFROWNING",
  "bWITH POUTING FACEcFOLDED HANDSaNORTH WEST POINTING LEAFapSOUTHaoNORTH EASTapSOUTH",
  "aoTURNED NORTH WESTbpSOUTHboNORTH EASTbpSOUTHanNORTH WEST POINTING VINEaqSOUTHapNORTH EAST",
  "aqSOUTHapHEAVY NORTH WESTbqSOUTHbpNORTH EASTbqSOUTHaNORTH WEST POINTING BUDapSOUTH",
  "aoNORTH EASTapSOUTHaoHEAVY NORTH WESTbpSOUTHboNORTH EASTbpSOUTHaHOLLOW QUILT SQUARE ORNAMENT",
  "eIN BLACK SQUAREaSOLID QUILT SQUARE ORNAMENTeIN BLACK SQUAREaLEFTWARDS ROCKETanUPWARDS",
  "anRIGHTWARDSanDOWNWARDSaSCRIPT LIGATURE ET ORNAMENTaqHEAVYaoLIGATURE OPENaqHEAVYbnAMPERSAND",
  "aoSWASHanSANS-SERIF HEAVY DOUBLE TURNED COMMA QUOTATION MARKdqcrLOWanHEAVY INTERROBANG",
  "aoSANS-SERIFapHEAVYaVERY HEAVY SOLIDUScnREVERSEaCHECKER BOARDaoREVERSEaROCKETaHELICOPTER",
  "aSTEAM LOCOMOTIVEaRAILWAY CARaHIGH-SPEED TRAINcWITH BULLET NOSEaTRAINaMETROaLIGHT RAIL",
  "aSTATIONaTRAMbCARaBUSanONCOMINGaTROLLEYBUSaBUS STOPaMINIBUSaAMBULANCEaFIRE ENGINEaPOLICE CAR",
  "aoONCOMINGaTAXIanONCOMINGaAUTOMOBILEanONCOMINGaRECREATIONAL VEHICLEaDELIVERY TRUCK",
  "aARTICULATED LORRYaTRACTORaMONORAILaMOUNTAIN RAILWAYanSUSPENSIONaMOUNTAIN CABLEWAY",
  "aAERIAL TRAMWAYaSHIPaROWBOATaSPEEDBOATaHORIZONTAL TRAFFIC LIGHTaoVERTICALaCONSTRUCTION SIGN",
  "aPOLICE CARS REVOLVING LIGHTaTRIANGULAR FLAG ON POSTaDOORaNO ENTRY SIGNaSMOKING SYMBOLaoNO",
  "anPUT LITTER IN ITS PLACEanDO NOT LITTERanPOTABLE WATERaoNON-POTABLEaBICYCLEaNO BICYCLES",
  "aBICYCLISTanMOUNTAINaPEDESTRIANaNO PEDESTRIANSaCHILDREN CROSSINGaMENS SYMBOLanWOMENSaRESTROOM",
  "aBABY SYMBOLaTOILETaWATER CLOSETaSHOWERaBATHaBATHTUBaPASSPORT CONTROLaCUSTOMSaBAGGAGE CLAIM",
  "aLEFT LUGGAGEaTRIANGLE WITH ROUNDED CORNERSaPROHIBITED SIGNaCIRCLED INFORMATION SOURCE",
  "aBOYS SYMBOLanGIRLSaCOUCH AND LAMPaSLEEPING ACCOMMODATIONaSHOPPING BAGSaBELLHOP BELLaBED",
  "aPLACE OF WORSHIPaOCTAGONAL SIGNaSHOPPING TROLLEYaSTUPAaPAGODAaHINDU TEMPLEaHUTaELEVATOR",
  "=1F6DDaPLAYGROUND SLIDEaWHEELaRING BUOYaHAMMER AND WRENCHaSHIELDaOIL DRUMaMOTORWAY",
  "aRAILWAY TRACKaMOTOR BOATaUP-POINTING MILITARY AIRPLANEbnbnSMALLaoanNORTHEAST-POINTING",
  "aAIRPLANE DEPARTUREbARRIVING=1F6F0aSATELLITEaONCOMING FIRE ENGINEaDIESEL LOCOMOTIVE",
  "aPASSENGER SHIPaSCOOTERanMOTORaCANOEaSLEDaFLYING SAUCERaSKATEBOARDaAUTO RICKSHAWaPICKUP TRUCK",
  "aROLLER SKATE=1F700aALCHEMICAL SYMBOL FOR QUINTESSENCEdAIRdFIREdEARTHdWATERdAQUAFORTIS",
  "dAQUA REGIAeREGIA-2eVITAEeVITAE-2dVINEGARdVINEGAR-2+1dSULFURdnPHILOSOPHERSdnBLACK",
  "dMERCURY SUBLIMATEeSUBLIMATE-2+1dCINNABARdSALTdNITREdVITRIOLdVITRIOL-2dROCK SALTeSALT-2dGOLD",
  "dSILVERdIRON OREeORE-2dCROCUS OF IRONdoREGULUSdCOPPER OREdnIRON-COPPERdSUBLIMATE OF COPPER",
  "doCROCUSfCOPPER-2dCOPPER ANTIMONIATEdoSALT OFdSUBLIMATE OF SALT OF COPPERdVERDIGRISdTIN ORE",
  "dnLEADdnANTIMONYdSUBLIMATE OF ANTIMONYdoSALTdpSUBLIMATE OFdoVINEGARdoREGULUSfANTIMONY-2e",
  "dREGULUS-2+2dALKALIdALKALI-2dMARCASITEdSAL-AMMONIACdARSENICdREALGARdREALGAR-2dAURIPIGMENT",
  "dBISMUTH OREdTARTARdTARTAR-2dQUICK LIMEdBORAXdBORAX-2+1dALUMdOILdSPIRITdTINCTUREdGUMdWAX",
  "dPOWDERdCALXdTUTTYdCAPUT MORTUUMdSCEPTER OF JOVEdCADUCEUSdTRIDENTdnSTARREDdLODESTONEdSOAP",
  "dURINEdHORSE DUNGdASHESdnPOTdBRICKdnPOWDEREDdAMALGAMdSTRATUM SUPER STRATUMfSTRATUM-2",
  "dSUBLIMATIONdPRECIPITATEdDISTILLdDISSOLVEdDISSOLVE-2dPURIFYdPUTREFACTIONdCRUCIBLEdCRUCIBLE-2",
  "+3dALEMBICdBATH OF MARYfVAPOURSdRETORTdHOURdNIGHTdDAY-NIGHTdMONTHdHALF DRAMeOUNCE=1F780",
  "aBLACK LEFT-POINTING ISOSCELES RIGHT TRIANGLEbpUP-POINTINGbpRIGHT-POINTINGbpDOWN-POINTING",
  "bSLIGHTLY SMALL CIRCLEanMEDIUM BOLD WHITEapaoHEAVYapVERYapEXTREMELY",
  "anWHITE CIRCLE CONTAINING BLACK SMALLaROUND TARGETaBLACK TINY SQUAREbnSLIGHTLY SMALL",
  "anLIGHT WHITEaoMEDIUMaoBOLDaoHEAVYapVERYapEXTREMELYanWHITE SQUARE CONTAINING BLACK VERY SMALL",
  "enMEDIUMaSQUARE TARGETaBLACK TINY DIAMONDbnVERY SMALLboMEDIUM",
  "aoWHITE DIAMOND CONTAINING BLACK VERYenMEDIUMaDIAMOND TARGETaBLACK TINY LOZENGEbnVERY SMALL",
  "boMEDIUMaoWHITE LOZENGE CONTAINING BLACKaTHIN GREEK CROSSaoLIGHTaoMEDIUMaoBOLDapVERYboHEAVY",
  "apEXTREMELYaTHIN SALTIREanLIGHTanMEDIUManBOLDanHEAVYaoVERYaoEXTREMELY",
  "aLIGHT FIVE SPOKED ASTERISKapMEDIUMapBOLDapHEAVYaqVERYaqEXTREMELYaoLIGHT SIXapMEDIUMapBOLD",
  "apHEAVYaqVERYaqEXTREMELYaoLIGHT EIGHTapMEDIUMapBOLDapHEAVYaqVERY",
  "aLIGHT THREE POINTED BLACK STARaqMEDIUMaqanMEDIUM THREE POINTED PINWHEEL",
  "anLIGHT FOUR POINTED BLACKaqMEDIUMaqanMEDIUM FOUR POINTED PINWHEELaqREVERSE LIGHT",
  "anLIGHT FIVE POINTED BLACKaqHEAVYapMEDIUM SIXaqHEAVYanSIX POINTED PINWHEEL",
  "anMEDIUM EIGHT POINTED BLACKaqHEAVYarVERYanHEAVY EIGHT POINTED PINWHEEL",
  "anLIGHT TWELVE POINTED BLACKaqHEAVYdnPINWHEELaCIRCLED TRIANGLEaoNEGATIVEaCIRCLED SQUARE",
  "aoNEGATIVE=1F7E0aLARGE ORANGE CIRCLEbnYELLOWbnGREENbnPURPLEbnBROWNbRED SQUAREbnBLUEbnORANGE",
  "bnYELLOWbnGREENbnPURPLEbnBROWN=1F7F0aHEAVY EQUALS SIGN=1F800",
  "aLEFTWARDS ARROW WITH SMALL TRIANGLE ARROWHEADarUPWARDSarRIGHTWARDSarDOWNWARDS",
  "aoLEFTWARDS ARROW WITH MEDIUMarUPWARDSarRIGHTWARDSarDOWNWARDSaoLEFTWARDS ARROW WITH LARGE",
  "arUPWARDSarRIGHTWARDSarDOWNWARDS=1F810anLEFTWARDS ARROW WITH SMALL EQUILATERALarUPWARDS",
  "arRIGHTWARDSarDOWNWARDSaoLEFTWARDS ARROW WITHaqUPWARDSaqRIGHTWARDSaqDOWNWARDS",
  "aqHEAVY LEFTWARDSbqUPWARDSbqRIGHTWARDSbqDOWNWARDSboLEFTWARDS ARROW WITH LARGEbrUPWARDS",
  "brRIGHTWARDSbrDOWNWARDSaLEFTWARDS TRIANGLE-HEADED ARROW WITH NARROW SHAFTarUPWARDS",
  "arRIGHTWARDSarDOWNWARDSanLEFTWARDS TRIANGLE-HEADED ARROW WITH MEDIUMarUPWARDSarRIGHTWARDS",
  "arDOWNWARDSanLEFTWARDS TRIANGLE-HEADED ARROW WITH BOLDarUPWARDSarRIGHTWARDSarDOWNWARDS",
  "anLEFTWARDS TRIANGLE-HEADED ARROW WITH HEAVYarUPWARDSarRIGHTWARDSarDOWNWARDS",
  "aoLEFTWARDS TRIANGLE-HEADED ARROW WITH VERYasUPWARDSasRIGHTWARDSasDOWNWARDS",
  "aLEFTWARDS FINGER-POST ARROWaoUPWARDSaoRIGHTWARDSaoDOWNWARDSanLEFTWARDS SQUAREDaoUPWARDS",
  "aoRIGHTWARDSaoDOWNWARDSanLEFTWARDS COMPRESSEDaoUPWARDSaoRIGHTWARDSaoDOWNWARDS",
  "aoLEFTWARDS HEAVYapUPWARDSapRIGHTWARDSapDOWNWARDSanLEFTWARDS HEAVYaoUPWARDSaoRIGHTWARDS",
  "aoDOWNWARDS=1F850anLEFTWARDS SANS-SERIFaoUPWARDSaoRIGHTWARDSaoDOWNWARDSaoNORTH WESTboEAST",
  "apSOUTHboWESTaoLEFT RIGHTaoUP DOWN=1F860anWIDE-HEADED LEFTWARDS LIGHT BARBbpUPWARDS",
  "bpRIGHTWARDSbpDOWNWARDSbpNORTH WESTcpEASTbqSOUTHcpWESTboLEFTWARDSboUPWARDSboRIGHTWARDS",
  "boDOWNWARDSboNORTH WESTcoEASTbpSOUTHcoWESTboLEFTWARDS MEDIUMbpUPWARDSbpRIGHTWARDSbpDOWNWARDS",
  "bpNORTH WESTcpEASTbqSOUTHcpWESTboLEFTWARDS HEAVYbpUPWARDSbpRIGHTWARDSbpDOWNWARDSbpNORTH WEST",
  "cpEASTbqSOUTHcpWESTbpLEFTWARDS VERYbqUPWARDSbqRIGHTWARDSbqDOWNWARDSbqNORTH WESTcqEASTbrSOUTH",
  "cqWEST=1F890aLEFTWARDS TRIANGLE ARROWHEADaoUPWARDSaoRIGHTWARDSaoDOWNWARDS",
  "aoLEFTWARDS WHITE ARROW WITHINarUPWARDSarRIGHTWARDSarDOWNWARDS",
  "aLEFTWARDS ARROW WITH NOTCHED TAILaqUPWARDSaqRIGHTWARDSaqDOWNWARDS",
  "aHEAVY ARROW SHAFT WIDTH ONEeTWO THIRDSeONE HALFfTHIRDaLEFTWARDS BOTTOM-SHADED WHITE ARROW",
  "aoRIGHTWARDS BOTTOM SHADEDapLEFTWARDS TOPaqRIGHTWARDSaoLEFTWARDS LEFT-SHADED",
  "aoRIGHTWARDS RIGHT-SHADEDapLEFTWARDSaoRIGHTWARDS LEFT-SHADEDaoLEFTWARDS BACK-TILTED SHADOWED",
  "aqRIGHTWARDSapLEFTWARDS FRONT-TILTEDaqRIGHTWARDSaWHITE ARROW SHAFT WIDTH ONEeTWO THIRDS=1F8B0",
  "aARROW POINTING UPWARDS THEN NORTH WESTcnRIGHTWARDS THEN CURVING SOUTH=1F900",
  "aCIRCLED CROSS FORMEE WITH FOUR DOTSenTWOdaLEFT HALF CIRCLE WITH FOUR DOTSenTHREEenTWOeDOTd",
  "aDOWNWARD FACING HOOKcnNOTCHEDcHOOK WITH DOTcpNOTCHEDaPINCHED FINGERSaWHITE HEARTanBROWN",
  "aPINCHING HANDaZIPPER-MOUTH FACEanMONEY-MOUTHaFACE WITH THERMOMETERaNERD FACEanTHINKING",
  "aFACE WITH HEAD-BANDAGEaROBOT FACEanHUGGINGaSIGN OF THE HORNSaCALL ME HANDanRAISED BACK OF",
  "aLEFT-FACING FISTanRIGHT-FACINGaHANDSHAKEaHAND WITH INDEX AND MIDDLE FINGERS CROSSED",
  "aI LOVE YOU HAND SIGNaFACE WITH COWBOY HATaCLOWN FACEanNAUSEATED",
  "aROLLING ON THE FLOOR LAUGHINGaDROOLING FACEanLYINGaFACE PALMaSNEEZING FACE",
  "aFACE WITH ONE EYEBROW RAISEDaGRINNING FACE WITH STAR EYESdONE LARGE AND ONE SMALL EYE",
  "aFACE WITH FINGER COVERING CLOSED LIPSaSERIOUS FACE WITH SYMBOLS COVERING MOUTH",
  "aoSMILING FACE WITH SMILING EYES AND HANDaFACE WITH OPEN MOUTH VOMITING",
  "aSHOCKED FACE WITH EXPLODING HEADaPREGNANT WOMANaBREAST-FEEDINGaPALMS UP TOGETHERaSELFIE",
  "aPRINCEaMAN IN TUXEDOaMOTHER CHRISTMASaSHRUGaPERSON DOING CARTWHEELaJUGGLINGaFENCER",
  "aMODERN PENTATHLONaWRESTLERSaWATER POLOaHANDBALLaDIVING MASKaWILTED FLOWER",
  "aDRUM WITH DRUMSTICKSaCLINKING GLASSESaTUMBLER GLASSaSPOONaGOAL NETaRIFLEaFIRST PLACE MEDAL",
  "aoSECONDaoTHIRDaBOXING GLOVEaMARTIAL ARTS UNIFORMaCURLING STONEaLACROSSE STICK AND BALL",
  "aSOFTBALLaFLYING DISCaCROISSANTaAVOCADOaCUCUMBERaBACONaPOTATOaCARROTaBAGUETTE BREAD",
  "aGREEN SALADaSHALLOW PAN OF FOODaSTUFFED FLATBREADaEGGaGLASS OF MILKaPEANUTSaKIWIFRUIT",
  "aPANCAKESaDUMPLINGaFORTUNE COOKIEaTAKEOUT BOXaCHOPSTICKSaBOWL WITH SPOONaCUP WITH STRAW",
  "aCOCONUTaBROCCOLIaPIEaPRETZELaCUT OF MEATaSANDWICHaCANNED FOODaLEAFY GREENaMANGOaMOON CAKE",
  "aBAGELaSMILING FACE WITH SMILING EYES AND THREE HEARTSaYAWNING FACEaSMILING FACE WITH TEAR",
  "aFACE WITH PARTY HORN AND PARTY HATcUNEVEN EYES AND WAVY MOUTHaOVERHEATED FACEanFREEZING",
  "aNINJAaDISGUISED FACEaFACE HOLDING BACK TEARSbWITH PLEADING EYESaSARIaLAB COATaGOGGLES",
  "aHIKING BOOTaFLAT SHOEaCRABaLION FACEaSCORPIONaTURKEYaUNICORN FACEaEAGLEaDUCKaBATaSHARKaOWL",
  "aFOX FACEaBUTTERFLYaDEERaGORILLAaLIZARDaRHINOCEROSaSHRIMPaSQUIDaGIRAFFE FACEanZEBRAaHEDGEHOG",
  "aSAUROPODaT-REXaCRICKETaKANGAROOaLLAMAaPEACOCKaHIPPOPOTAMUSaPARROTaRACCOONaLOBSTERaMOSQUITO",
  "aMICROBEaBADGERaSWANaMAMMOTHaDODOaSLOTHaOTTERaORANGUTANaSKUNKaFLAMINGOaOYSTERaBEAVERaBISON",
  "aSEALaGUIDE DOGaPROBING CANEaEMOJI COMPONENT RED HAIRcnCURLYcBALDcWHITE HAIRaBONEaLEGaFOOT",
  "aTOOTHaSUPERHEROaSUPERVILLAINaSAFETY VESTaEAR WITH HEARING AIDaMOTORIZED WHEELCHAIRanMANUAL",
  "aMECHANICAL ARMbLEGaCHEESE WEDGEaCUPCAKEaSALT SHAKERaBEVERAGE BOXaGARLICaONIONaFALAFELaWAFFLE",
  "aBUTTERaMATE DRINKaICE CUBEaBUBBLE TEAaTROLLaSTANDING PERSONanKNEELINGanDEAF",
  "aFACE WITH MONOCLEaADULTaCHILDaOLDER ADULTaBEARDED PERSONaPERSON WITH HEADSCARF",
  "bIN STEAMY ROOMbCLIMBINGbIN LOTUS POSITIONaMAGEaFAIRYaVAMPIREaMERPERSONaELFaGENIEaZOMBIE",
  "aBRAINaORANGE HEARTaBILLED CAPaSCARFaGLOVESaCOATaSOCKSaRED GIFT ENVELOPEaFIRECRACKER",
  "aJIGSAW PUZZLE PIECEaTEST TUBEaPETRI DISHaDNA DOUBLE HELIXaCOMPASSaABACUSaFIRE EXTINGUISHER",
  "aTOOLBOXaBRICKaMAGNETaLUGGAGEaLOTION BOTTLEaSPOOL OF THREADaBALL OF YARNaSAFETY PIN",
  "aTEDDY BEARaBROOMaBASKETaROLL OF PAPERaBAR OF SOAPaSPONGEaRECEIPTaNAZAR AMULET",
  "aNEUTRAL CHESS KINGcQUEENcROOKcBISHOPcKNIGHTcPAWN",
  "aWHITE CHESS KNIGHT ROTATED FORTY-FIVE DEGREESarBLACKarNEUTRAL",
  "anWHITE CHESS KING ROTATED NINETYcpQUEENcpROOKcpBISHOPcpKNIGHTcpPAWNapBLACK CHESS KINGcpQUEEN",
  "cpROOKcpBISHOPcpKNIGHTcpPAWNapNEUTRAL CHESS KINGcpQUEENcpROOKcpBISHOPcpKNIGHTcpPAWN",
  "anWHITE CHESS KNIGHT ROTATED ONE HUNDRED THIRTY-FIVEatBLACKatNEUTRALaWHITE CHESS TURNED KING",
  "dQUEENdROOKdBISHOPdKNIGHTdPAWNaBLACK CHESS TURNED KINGdQUEENdROOKdBISHOPdKNIGHTdPAWN",
  "aNEUTRAL CHESS TURNED KINGdQUEENdROOKdBISHOPdKNIGHTdPAWN",
  "aWHITE CHESS KNIGHT ROTATED TWO HUNDRED TWENTY-FIVE DEGREESatBLACKatNEUTRAL",
  "anWHITE CHESS KING ROTATED TWO HUNDRED SEVENTYcrQUEENcrROOKcrBISHOPcrKNIGHTcrPAWN",
  "arBLACK CHESS KINGcrQUEENcrROOKcrBISHOPcrKNIGHTcrPAWNarNEUTRAL CHESS KINGcrQUEENcrROOK",
  "crBISHOPcrKNIGHTcrPAWNanWHITE CHESS KNIGHT ROTATED THREE HUNDRED FIFTEENatBLACKatNEUTRAL",
  "aWHITE CHESS EQUIHOPPERaoBLACKaoNEUTRALaWHITE CHESS EQUIHOPPER ROTATED NINETY DEGREESarBLACK",
  "arNEUTRALaWHITE CHESS KNIGHT-QUEENcKNIGHT-ROOKcKNIGHT-BISHOPaBLACK CHESS KNIGHT-QUEEN",
  "cKNIGHT-ROOKcKNIGHT-BISHOP=1FA60aXIANGQI RED GENERALcMANDARINcELEPHANTcHORSEcCHARIOTcCANNON",
  "cSOLDIERbBLACK GENERALcMANDARINcELEPHANTcHORSEcCHARIOTcCANNONcSOLDIER=1FA70aBALLET SHOES",
  "aONE-PIECE SWIMSUITaBRIEFSaSHORTSaTHONG SANDAL=1FA78aDROP OF BLOODaADHESIVE BANDAGE",
  "aSTETHOSCOPEaX-RAYaCRUTCH=1FA80aYO-YOaKITEaPARACHUTEaBOOMERANGaMAGIC WANDaPINATA",
  "aNESTING DOLLS=1FA90aRINGED PLANETaCHAIRaRAZORaAXEaDIYA LAMPaBANJOaMILITARY HELMETaACCORDION",
  "aLONG DRUMaCOINaCARPENTRY SAWaSCREWDRIVERaLADDERaHOOKaMIRRORaWINDOWaPLUNGERaSEWING NEEDLE",
  "aKNOTaBUCKETaMOUSE TRAPaTOOTHBRUSHaHEADSTONEaPLACARDaROCKaMIRROR BALLaIDENTIFICATION CARD",
  "aLOW BATTERYaHAMSA=1FAB0aFLYaWORMaBEETLEaCOCKROACHaPOTTED PLANTaWOODaFEATHERaLOTUSaCORAL",
  "aEMPTY NESTaNEST WITH EGGS=1FAC0aANATOMICAL HEARTaLUNGSaPEOPLE HUGGINGaPREGNANT MANbPERSON",
  "aPERSON WITH CROWN=1FAD0aBLUEBERRIESaBELL PEPPERaOLIVEaFLATBREADaTAMALEaFONDUEaTEAPOT",
  "aPOURING LIQUIDaBEANSaJAR=1FAE0aMELTING FACEanSALUTING",
  "aFACE WITH OPEN EYES AND HAND OVER MOUTHcPEEKING EYEcDIAGONAL MOUTHaDOTTED LINE FACE",
  "aBITING LIPaBUBBLES=1FAF0aHAND WITH INDEX FINGER AND THUMB CROSSEDaRIGHTWARDS HANDanLEFTWARDS",
  "anPALM DOWNbnUPaINDEX POINTING AT THE VIEWERaHEART HANDS=1FB00aBLOCK SEXTANT-1+1bSEXTANT-12",
  "bSEXTANT-3bSEXTANT-13bSEXTANT-23bSEXTANT-123bSEXTANT-4bSEXTANT-14bSEXTANT-24bSEXTANT-124",
  "bSEXTANT-34bSEXTANT-134bSEXTANT-234bSEXTANT-1234bSEXTANT-5bSEXTANT-15bSEXTANT-25bSEXTANT-125",
  "bSEXTANT-35bSEXTANT-235bSEXTANT-1235bSEXTANT-45bSEXTANT-145bSEXTANT-245bSEXTANT-1245",
  "bSEXTANT-345bSEXTANT-1345bSEXTANT-2345bSEXTANT-12345bSEXTANT-6bSEXTANT-16bSEXTANT-26",
  "bSEXTANT-126bSEXTANT-36bSEXTANT-136bSEXTANT-236bSEXTANT-1236bSEXTANT-46bSEXTANT-146",
  "bSEXTANT-1246bSEXTANT-346bSEXTANT-1346bSEXTANT-2346bSEXTANT-12346bSEXTANT-56bSEXTANT-156",
  "bSEXTANT-256bSEXTANT-1256bSEXTANT-356bSEXTANT-1356bSEXTANT-2356bSEXTANT-12356bSEXTANT-456",
  "bSEXTANT-1456bSEXTANT-2456bSEXTANT-12456bSEXTANT-3456bSEXTANT-13456bSEXTANT-23456",
  "aLOWER LEFT BLOCK DIAGONAL LOWER MIDDLE LEFT TO LOWER CENTREjRIGHT",
  "eUPPER MIDDLE LEFT TO LOWER CENTREjRIGHTfLEFT TO LOWER CENTRE",
  "bnRIGHT BLOCK DIAGONAL UPPER MIDDLE LEFT TO UPPERjRIGHTeLOWER MIDDLE LEFT TO UPPER CENTRE",
  "jRIGHTfLEFT TO UPPER CENTREfMIDDLE LEFT TO UPPER MIDDLE RIGHTfoCENTRE TO LOWERfqLEFT",
  "foCENTRE TO UPPERfqLEFTfnCENTRE TO UPPERbnLEFT BLOCK DIAGONAL UPPER CENTRE TO UPPER MIDDLE",
  "fqLEFTfoCENTRE TO LOWERfqLEFTfnCENTRE TO LOWERfnMIDDLE LEFT TO LOWER MIDDLE",
  "aUPPER RIGHT BLOCK DIAGONAL LOWER MIDDLE LEFT TO LOWER CENTREjRIGHT",
  "eUPPER MIDDLE LEFT TO LOWER CENTREjRIGHTfLEFT TO LOWER CENTRE",
  "bnLEFT BLOCK DIAGONAL UPPER MIDDLE LEFT TO UPPERjRIGHTeLOWER MIDDLE LEFT TO UPPER CENTRE",
  "jRIGHTfLEFT TO UPPER CENTREfMIDDLE LEFT TO UPPER MIDDLE RIGHTfoCENTRE TO LOWERfqLEFT",
  "foCENTRE TO UPPERfqLEFTfnCENTRE TO UPPERbnRIGHT BLOCK DIAGONAL UPPER CENTRE TO UPPER MIDDLE",
  "fqLEFTfoCENTRE TO LOWERfqLEFTfnCENTRE TO LOWERfnMIDDLE LEFT TO LOWER MIDDLE",
  "bAND RIGHT AND LOWER TRIANGULAR THREE QUARTERS BLOCKaqLEFT AND LOWER AND RIGHT",
  "aqUPPER AND LEFT AND LOWERaqLEFT AND UPPER AND RIGHTbnTRIANGULAR ONE QUARTERaqUPPERaqRIGHT",
  "aqLOWERaVERTICAL ONE EIGHTH BLOCK-2+5aHORIZONTAL ONE EIGHTH BLOCK-2+5",
  "aLEFT AND LOWER ONE EIGHTH BLOCKcpUPPERarRIGHTcpLOWERarUPPERaHORIZONTAL ONE EIGHTH BLOCK-1358",
  "aUPPER ONE QUARTER BLOCKbnTHREE EIGHTHSboFIVEbnTHREE QUARTERSbnSEVEN EIGHTHS",
  "anRIGHT ONE QUARTERbnTHREE EIGHTHSboFIVEbnTHREE QUARTERSbnSEVEN EIGHTHS",
  "aLEFT HALF MEDIUM SHADEapRIGHTapUPPERapLOWERaoINVERSEapUPPER HALF BLOCK AND LOWER HALF",
  "cINVERSE MEDIUM SHADE AND LOWER HALF BLOCK=1FB94aoLEFT HALF INVERSE MEDIUM SHADE AND RIGHT",
  "aCHECKER BOARD FILLapINVERSEanHEAVY HORIZONTALanUPPER LEFT TO LOWER RIGHT",
  "bnRIGHT TO LOWER LEFTbAND LOWER TRIANGULAR HALF BLOCKapLEFT AND RIGHT",
  "aUPPER LEFT TRIANGULAR MEDIUM SHADEbpRIGHTaqLOWERbpLEFT",
  "aBOX DRAWINGS LIGHT DIAGONAL UPPER CENTRE TO MIDDLE LEFTiRIGHTeMIDDLE LEFT TO LOWER CENTRE",
  "fpRIGHTepUPPER CENTRE TO MIDDLE LEFTipRIGHTeMIDDLE LEFT TO LOWER CENTRE TO MIDDLE RIGHT",
  "hqUPPEReUPPER CENTRE TO MIDDLE LEFT AND MIDDLE RIGHT TO LOWER CENTREipRIGHT AND MIDDLE LEFT",
  "jTO LOWER CENTRE TO MIDDLE LEFTiLEFT TO LOWER CENTRE TO MIDDLE RIGHT",
  "eMIDDLE LEFT TO UPPER CENTRE TO MIDDLE RIGHT TO LOWER CENTRE",
  "fpRIGHT TO UPPER CENTRE TO MIDDLE LEFTeDIAMONDdHORIZONTAL WITH VERTICAL STROKE",
  "aARROWHEAD-SHAPED POINTERaINVERSE CHECK MARKaLEFT HALF RUNNING MANapRIGHT",
  "aINVERSE DOWNWARDS ARROW WITH TIP LEFTWARDS",
  "aLEFTWARDS ARROW AND UPPER AND LOWER ONE EIGHTH BLOCKauRIGHTWARDSapDOWNWARDS ARROW AND RIGHT",
  "asUPWARDSaLEFT HALF FOLDERaoRIGHTaVOIDED GREEK CROSSaRIGHT OPEN SQUARED DOT",
  "aNEGATIVE DIAGONAL CROSScMIDDLE RIGHT TO LOWER CENTREcDIAMOND",
  "aWHITE HEAVY SALTIRE WITH ROUNDED CORNERSaLEFT THIRD WHITE RIGHT POINTING INDEXarMIDDLE",
  "arRIGHTaNEGATIVE SQUARED QUESTION MARKaSTICK FIGUREcWITH ARMS RAISEDcLEANING LEFTdRIGHT",
  "cWITH DRESSaWHITE UP-POINTING CHEVRON=1FBF0aSEGMENTED DIGIT ZEROcONEcTWOcTHREEcFOURcFIVEcSIX",
  "cSEVENcEIGHTcNINE=E0001aLANGUAGE TAG=E0020aTAG SPACEbEXCLAMATION MARKbnQUOTATIONbNUMBER SIGN",
  "bnDOLLARbnPERCENTbAMPERSANDbAPOSTROPHEbLEFT PARENTHESISbnRIGHTbASTERISKbPLUS SIGNbCOMMA",
  "bHYPHEN-MINUSbFULL STOPbSOLIDUSbDIGIT ZEROcONEcTWOcTHREEcFOURcFIVEcSIXcSEVENcEIGHTcNINEbCOLON",
  "bSEMICOLONbLESS-THAN SIGNbnEQUALSbnGREATER-THANbQUESTION MARKbCOMMERCIAL AT",
  "bLATIN CAPITAL LETTER AeBeCeDeEeFeGeHeIeJeKeLeMeNeOePeQeReSeTeUeVeWeXeYeZbLEFT SQUARE BRACKET",
  "bREVERSE SOLIDUSbRIGHT SQUARE BRACKETbCIRCUMFLEX ACCENTbLOW LINEbGRAVE ACCENT",
  "bLATIN SMALL LETTER AeBeCeDeEeFeGeHeIeJeKeLeMeNeOePeQeReSeTeUeVeWeXeYeZbLEFT CURLY BRACKET",
  "bVERTICAL LINEbRIGHT CURLY BRACKETbTILDEaCANCEL TAG=E0100aVARIATION SELECTOR-17+239"
]

end ApiRouter.Text.Name
