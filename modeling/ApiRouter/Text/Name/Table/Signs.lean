set_option autoImplicit false

/-! # Names of characters

Punctuation, currencies, arrows and mathematical operators. -/

namespace ApiRouter.Text.Name

/-- The names of the characters from 2000 to 24FF. -/
def signs : List String := [
  "=2000aEN QUADanEMaEN SPACEanEManTHREE-PER-EManFOUR-PER-EManSIX-PER-EManFIGUREanPUNCTUATION",
  "anTHINanHAIRanZERO WIDTHcNON-JOINERcJOINERaLEFT-TO-RIGHT MARKanRIGHT-TO-LEFTaHYPHEN",
  "anNON-BREAKINGaFIGURE DASHanENanEMaHORIZONTAL BARaDOUBLE VERTICAL LINEbnLOW",
  "aLEFT SINGLE QUOTATION MARKapRIGHTaoSINGLE LOW-9boHIGH-REVERSED-9aoLEFT DOUBLEapRIGHT",
  "aoDOUBLE LOW-9boHIGH-REVERSED-9aDAGGERanDOUBLEaBULLETanTRIANGULARaONE DOT LEADERaoTWO",
  "aHORIZONTAL ELLIPSISaHYPHENATION POINTaLINE SEPARATORanPARAGRAPHaLEFT-TO-RIGHT EMBEDDING",
  "anRIGHT-TO-LEFTaPOP DIRECTIONAL FORMATTINGaLEFT-TO-RIGHT OVERRIDEanRIGHT-TO-LEFT",
  "aNARROW NO-BREAK SPACEaPER MILLE SIGNbnTEN THOUSANDaPRIMEanDOUBLEanTRIPLEanREVERSEDbnDOUBLE",
  "bnTRIPLEaCARETaSINGLE LEFT-POINTING ANGLE QUOTATION MARKbpRIGHT-POINTINGanREFERENCE",
  "anDOUBLE EXCLAMATIONaINTERROBANGaOVERLINEaUNDERTIEaCHARACTER TIEaCARET INSERTION POINT",
  "aASTERISMaHYPHEN BULLETaFRACTION SLASHaLEFT SQUARE BRACKET WITH QUILLaqRIGHT",
  "aDOUBLE QUESTION MARKanQUESTION EXCLAMATIONanEXCLAMATION QUESTIONaTIRONIAN SIGN ET",
  "aREVERSED PILCROW SIGNaBLACK LEFTWARDS BULLETbnRIGHTWARDSaLOW ASTERISKaREVERSED SEMICOLON",
  "aCLOSE UPaTWO ASTERISKS ALIGNED VERTICALLYaCOMMERCIAL MINUS SIGNaSWUNG DASHaINVERTED UNDERTIE",
  "aFLOWER PUNCTUATION MARKaTHREE DOT PUNCTUATIONaQUADRUPLE PRIMEaFOUR DOT PUNCTUATIONaoFIVE",
  "aoTWOaFOUR DOT MARKaDOTTED CROSSaTRICOLONaVERTICAL FOUR DOTSaMEDIUM MATHEMATICAL SPACE",
  "aWORD JOINERaFUNCTION APPLICATIONaINVISIBLE TIMESbSEPARATORbPLUS=2066aLEFT-TO-RIGHT ISOLATE",
  "anRIGHT-TO-LEFTanFIRST STRONGanPOP DIRECTIONALaINHIBIT SYMMETRIC SWAPPINGaoACTIVATE",
  "aINHIBIT ARABIC FORM SHAPINGapACTIVATEaNATIONAL DIGIT SHAPESaoNOMINALaSUPERSCRIPT ZERO",
  "bLATIN SMALL LETTER I=2074bFOURbFIVEbSIXbSEVENbEIGHTbNINEbPLUS SIGNbMINUSbEQUALS SIGN",
  "bLEFT PARENTHESISbnRIGHTbLATIN SMALL LETTER NaSUBSCRIPT ZERObONEbTWObTHREEbFOURbFIVEbSIX",
  "bSEVENbEIGHTbNINEbPLUS SIGNbMINUSbEQUALS SIGNbLEFT PARENTHESISbnRIGHT=2090",
  "aLATIN SUBSCRIPT SMALL LETTER AeEeOeXeSCHWAeHeKeLeMeNePeSeT=20A0aEURO-CURRENCY SIGNanCOLON",
  "anCRUZEIROanFRENCH FRANCanLIRAanMILLanNAIRAanPESETAanRUPEEanWONanNEW SHEQELanDONGanEUROanKIP",
  "anTUGRIKanDRACHMAanGERMAN PENNYanPESOanGUARANIanAUSTRALanHRYVNIAanCEDIanLIVRE TOURNOIS",
  "anSPESMILOanTENGEanINDIAN RUPEEanTURKISH LIRAanNORDIC MARKanMANATanRUBLEanLARIanBITCOINanSOM",
  "=20D0aCOMBINING LEFT HARPOON ABOVEboRIGHTbLONG VERTICAL LINE OVERLAYbpSHORT",
  "bANTICLOCKWISE ARROW ABOVEboCLOCKWISEboLEFTboRIGHTbRING OVERLAYboCLOCKWISEboANTICLOCKWISE",
  "bTHREE DOTS ABOVEboFOURbENCLOSING CIRCLEcSQUAREcDIAMONDcCIRCLE BACKSLASH",
  "bLEFT RIGHT ARROW ABOVEbENCLOSING SCREENcKEYCAPcUPWARD POINTING TRIANGLE",
  "bREVERSE SOLIDUS OVERLAYbnDOUBLE VERTICAL STROKEbANNUITY SYMBOLbTRIPLE UNDERDOT",
  "bWIDE BRIDGE ABOVEbLEFTWARDS ARROW OVERLAYbnLONG DOUBLE SOLIDUS",
  "bRIGHTWARDS HARPOON WITH BARB DOWNWARDSbqLEFTWARDSbLEFT ARROW BELOWboRIGHTbASTERISK ABOVE",
  "=2100aACCOUNT OFaADDRESSED TO THE SUBJECTaDOUBLE-STRUCK CAPITAL CaDEGREE CELSIUS",
  "aCENTRE LINE SYMBOLaCARE OFaCADA UNAaEULER CONSTANTaSCRUPLEaDEGREE FAHRENHEITaSCRIPT SMALL G",
  "bCAPITAL HaoBLACK-LETTERaoDOUBLE-STRUCKaPLANCK CONSTANTcOVER TWO PIaSCRIPT CAPITAL I",
  "aoBLACK-LETTERaSCRIPT CAPITAL LbnSMALLaL B BAR SYMBOLaDOUBLE-STRUCK CAPITAL NaNUMERO SIGN",
  "aSOUND RECORDING COPYRIGHTaSCRIPT CAPITAL PaoDOUBLE-STRUCKcQaSCRIPT CAPITAL RaoBLACK-LETTER",
  "aoDOUBLE-STRUCKaPRESCRIPTION TAKEaRESPONSEaSERVICE MARKaTELEPHONE SIGNanTRADE MARKaVERSICLE",
  "aDOUBLE-STRUCK CAPITAL ZaOUNCE SIGNanOHMaoINVERTEDaBLACK-LETTER CAPITAL Z",
  "aTURNED GREEK SMALL LETTER IOTAaKELVIN SIGNanANGSTROMaSCRIPT CAPITAL BaBLACK-LETTER CAPITAL C",
  "aESTIMATED SYMBOLaSCRIPT SMALL EbnCAPITALcFaoTURNEDaSCRIPT CAPITAL MbSMALL OaALEF SYMBOLanBET",
  "anGIMELanDALETaINFORMATION SOURCEaROTATED CAPITAL QaFACSIMILE SIGNaDOUBLE-STRUCK SMALL PI",
  "cGAMMAbnCAPITALcPIbN-ARY SUMMATIONaTURNED SANS-SERIF CAPITAL GdLapREVERSED",
  "aTURNED SANS-SERIF CAPITAL YaDOUBLE-STRUCK ITALIC CAPITAL DcnSMALLdEdIdJaPROPERTY LINE",
  "aTURNED AMPERSANDaPER SIGNaAKTIESELSKABaTURNED SMALL FaSYMBOL FOR SAMARITAN SOURCE",
  "aVULGAR FRACTION ONE SEVENTHdNINTHdTENTHdTHIRDcTWO THIRDScONE FIFTHcTWO FIFTHScnTHREEcnFOUR",
  "cONE SIXTHcFIVE SIXTHScONE EIGHTHcTHREE EIGHTHScnFIVEcnSEVENaFRACTION NUMERATOR ONE",
  "anROMAN NUMERALcTWOcTHREEcFOURcFIVEcSIXcSEVENcEIGHTcNINEcTENcELEVENcTWELVEcFIFTYcONE HUNDRED",
  "cnFIVEcONE THOUSANDaSMALL ROMAN NUMERAL ONEdTWOdTHREEdFOURdFIVEdSIXdSEVENdEIGHTdNINEdTEN",
  "dELEVENdTWELVEdFIFTYdONE HUNDREDdnFIVEdONE THOUSANDaROMAN NUMERAL ONE THOUSAND C D",
  "cFIVE THOUSANDcnTENcREVERSED ONE HUNDREDaLATIN SMALL LETTER REVERSED C",
  "aROMAN NUMERAL SIX LATE FORMcnFIFTY EARLYdTHOUSANDcnONE HUNDREDaVULGAR FRACTION ZERO THIRDS",
  "aTURNED DIGIT TWOcTHREE=2190aLEFTWARDS ARROWanUPWARDSanRIGHTWARDSanDOWNWARDSanLEFT RIGHT",
  "anUP DOWNanNORTH WESTbnEASTaoSOUTHbnWESTaLEFTWARDS ARROW WITH STROKEapRIGHTWARDS",
  "aLEFTWARDS WAVE ARROWaoRIGHTWARDSanLEFTWARDS TWO HEADEDapUPWARDSapRIGHTWARDSapDOWNWARDS",
  "aLEFTWARDS ARROW WITH TAILapRIGHTWARDSaLEFTWARDS ARROW FROM BARapUPWARDSapRIGHTWARDS",
  "apDOWNWARDSaUP DOWN ARROW WITH BASEaLEFTWARDS ARROW WITH HOOKapRIGHTWARDS",
  "aLEFTWARDS ARROW WITH LOOPapRIGHTWARDSaLEFT RIGHT WAVE ARROWcARROW WITH STROKE",
  "aDOWNWARDS ZIGZAG ARROWaUPWARDS ARROW WITH TIP LEFTWARDSeRIGHTWARDS",
  "aDOWNWARDS ARROW WITH TIP LEFTWARDSeRIGHTWARDSaRIGHTWARDS ARROW WITH CORNER DOWNWARDS",
  "aDOWNWARDS ARROW WITH CORNER LEFTWARDSaANTICLOCKWISE TOP SEMICIRCLE ARROWapCLOCKWISE",
  "aNORTH WEST ARROW TO LONG BARanLEFTWARDS ARROW TO BAR OVER RIGHTWARDS ARROW TO",
  "aANTICLOCKWISE OPEN CIRCLE ARROWapCLOCKWISEaLEFTWARDS HARPOON WITH BARB UPWARDSeDOWNWARDS",
  "aUPWARDS HARPOON WITH BARB RIGHTWARDSeLEFTWARDSaRIGHTWARDS HARPOON WITH BARB UPWARDS",
  "eDOWNWARDSaDOWNWARDS HARPOON WITH BARB RIGHTWARDSeLEFTWARDS",
  "aRIGHTWARDS ARROW OVER LEFTWARDS ARROWanUPWARDS ARROW LEFTWARDS OF DOWNWARDS",
  "anLEFTWARDS ARROW OVER RIGHTWARDSbPAIRED ARROWSaoUPWARDSaoRIGHTWARDSaoDOWNWARDS",
  "aLEFTWARDS HARPOON OVER RIGHTWARDS HARPOONanRIGHTWARDS HARPOON OVER LEFTWARDS",
  "aLEFTWARDS DOUBLE ARROW WITH STROKEaqLEFT RIGHTaqRIGHTWARDSaLEFTWARDS DOUBLE ARROWaoUPWARDS",
  "aoRIGHTWARDSaoDOWNWARDSaoLEFT RIGHTaoUP DOWNaoNORTH WESTboEASTapSOUTHboWESTanLEFTWARDS TRIPLE",
  "aoRIGHTWARDSanLEFTWARDS SQUIGGLEaoRIGHTWARDSaUPWARDS ARROW WITH DOUBLE STROKEaqDOWNWARDS",
  "aLEFTWARDS DASHED ARROWaoUPWARDSaoRIGHTWARDSaoDOWNWARDSaLEFTWARDS ARROW TO BARapRIGHTWARDS",
  "aLEFTWARDS WHITE ARROWaoUPWARDSaoRIGHTWARDSaoDOWNWARDSaUPWARDS WHITE ARROW FROM BAR",
  "dON PEDESTALfWITH HORIZONTAL BARgnVERTICALcDOUBLE ARROWeON PEDESTAL",
  "aRIGHTWARDS WHITE ARROW FROM WALLaNORTH WEST ARROW TO CORNERapSOUTH EASTaUP DOWN WHITE ARROW",
  "aRIGHT ARROW WITH SMALL CIRCLEaDOWNWARDS ARROW LEFTWARDS OF UPWARDS ARROW",
  "aTHREE RIGHTWARDS ARROWSaLEFTWARDS ARROW WITH VERTICAL STROKEaqRIGHTWARDSaqLEFT RIGHT",
  "aoLEFTWARDS ARROW WITH DOUBLEarRIGHTWARDSarLEFT RIGHTaLEFTWARDS OPEN-HEADED ARROWaoRIGHTWARDS",
  "aoLEFT RIGHTaFOR ALLaCOMPLEMENTaPARTIAL DIFFERENTIALaTHERE EXISTSbDOES NOT EXISTaEMPTY SET",
  "aINCREMENTaNABLAaELEMENT OFaoNOT ANaoSMALLaCONTAINS AS MEMBERaoDOES NOT CONTAIN",
  "aoSMALL CONTAINSaEND OF PROOFaN-ARY PRODUCTbCOPRODUCTbSUMMATIONaMINUS SIGNanMINUS-OR-PLUS",
  "aDOT PLUSaDIVISION SLASHaSET MINUSaASTERISK OPERATORanRINGanBULLETaSQUARE ROOTanCUBEanFOURTH",
  "aPROPORTIONAL TOaINFINITYaRIGHT ANGLEananMEASUREDanSPHERICALaDIVIDESaDOES NOT DIVIDE",
  "aPARALLEL TOaoNOTaLOGICAL ANDbORaINTERSECTIONaUNIONaINTEGRALanDOUBLEanTRIPLEanCONTOUR",
  "anSURFACEanVOLUMEanCLOCKWISEbnCONTOURaoANTICLOCKWISEaTHEREFOREaBECAUSEaRATIOaPROPORTION",
  "aDOT MINUSaEXCESSaGEOMETRIC PROPORTIONaHOMOTHETICaTILDE OPERATORaREVERSED TILDE",
  "aINVERTED LAZY SaSINE WAVEaWREATH PRODUCTaNOT TILDEanMINUSaASYMPTOTICALLY EQUAL TOapNOT",
  "aoAPPROXIMATELYboBUT NOT ACTUALLYapNEITHER APPROXIMATELY NORaoALMOSTapNOTaoALMOST EQUAL OR",
  "aTRIPLE TILDEaALL EQUAL TOanEQUIVALENTaoGEOMETRICALLYaDIFFERENCE BETWEENaAPPROACHES THE LIMIT",
  "aGEOMETRICALLY EQUAL TOaAPPROXIMATELY EQUAL TO OR THE IMAGE OF",
  "aIMAGE OF OR APPROXIMATELY EQUAL TOaCOLON EQUALSaEQUALS COLONaRING IN EQUAL TOboanCORRESPONDS",
  "aESTIMATESaEQUIANGULAR TOaSTAR EQUALSaDELTA EQUAL TOaEQUAL TO BY DEFINITIONaMEASURED BY",
  "aQUESTIONED EQUAL TOaoNOTanIDENTICALaoNOTanSTRICTLY EQUIVALENTanLESS-THAN OR EQUAL",
  "apGREATER-THANaoLESS-THAN OVERapGREATER-THANaoLESS-THAN BUT NOTaqGREATER-THANaMUCH LESS-THAN",
  "bGREATER-THANaBETWEENaNOT EQUIVALENT TObLESS-THANbGREATER-THANaNEITHER LESS-THAN NOR EQUAL TO",
  "bpGREATER-THANanLESS-THAN OR EQUIVALENTapGREATER-THANaoNEITHER LESS-THAN NORbpGREATER-THAN",
  "aLESS-THAN OR GREATER-THANaGREATER-THAN OR LESS-THANaNEITHER LESS-THAN NOR GREATER-THAN",
  "bGREATER-THAN NOR LESS-THANaPRECEDESaSUCCEEDSaPRECEDES OR EQUAL TOapSUCCEEDS",
  "anPRECEDES OR EQUIVALENTapSUCCEEDSaDOES NOT PRECEDEcSUCCEEDaSUBSET OFanSUPERSETanNOT A SUBSET",
  "cnSUPERSETaSUBSET OF OR EQUAL TOaqSUPERSETaoNEITHER A SUBSET OF NORcqSUPERSET",
  "aoSUBSET OF WITH NOTarSUPERSETaMULTISETbMULTIPLICATIONbUNIONaSQUARE IMAGE OFbnORIGINAL",
  "bIMAGE OF OR EQUAL TObqORIGINALbCAPbCUPaCIRCLED PLUSbMINUSbTIMESbDIVISION SLASHbDOT OPERATOR",
  "bnRINGbnASTERISKbEQUALSbDASHaSQUARED PLUSbMINUSbTIMESbDOT OPERATORaRIGHT TACKanLEFTanDOWNanUP",
  "aASSERTIONaMODELSaTRUEaFORCESaTRIPLE VERTICAL BAR RIGHT TURNSTILEaoDOUBLE VERTICAL BAR DOUBLE",
  "aDOES NOT PROVEaNOT TRUEaDOES NOT FORCEaNEGATED DOUBLE VERTICAL BAR DOUBLE RIGHT TURNSTILE",
  "aPRECEDES UNDER RELATIONaoSUCCEEDSaNORMAL SUBGROUP OFaCONTAINS AS NORMAL SUBGROUP",
  "aNORMAL SUBGROUP OF OR EQUAL TOapCONTAINS AS NORMAL SUBGROUPaORIGINAL OFanIMAGEaMULTIMAP",
  "aHERMITIAN CONJUGATE MATRIXaINTERCALATEaXORaNANDaNORaRIGHT ANGLE WITH ARCbTRIANGLE",
  "aN-ARY LOGICAL ANDcORbINTERSECTIONbUNIONaDIAMOND OPERATORanDOTanSTARaDIVISION TIMESaBOWTIE",
  "aLEFT NORMAL FACTOR SEMIDIRECT PRODUCTaqRIGHTaoLEFTaoRIGHTaREVERSED TILDE EQUALS",
  "aCURLY LOGICAL ORcANDaDOUBLE SUBSETbSUPERSETbINTERSECTIONbUNIONaPITCHFORK",
  "aEQUAL AND PARALLEL TOaLESS-THAN WITH DOTaoGREATER-THANaVERY MUCH LESS-THANcGREATER-THAN",
  "anLESS-THAN EQUAL TO ORaGREATER-THAN EQUAL TO OR LESS-THANaqdGREATER-THANdPRECEDESdSUCCEEDS",
  "aDOES NOT PRECEDE OR EQUALcoSUCCEEDaNOT SQUARE IMAGE OF OR EQUAL TOcqORIGINAL",
  "aoSQUARE IMAGE OF OR NOTbrORIGINALanLESS-THAN BUT NOT EQUIVALENTaqGREATER-THANaqPRECEDES",
  "aqSUCCEEDSaNOT NORMAL SUBGROUP OFaDOES NOT CONTAIN AS NORMAL SUBGROUP",
  "aNOT NORMAL SUBGROUP OF OR EQUAL TOaDOES NOT CONTAIN AS NORMAL SUBGROUP OR EQUAL",
  "aVERTICAL ELLIPSISanMIDLINE HORIZONTALanUP RIGHT DIAGONALapDOWN",
  "aELEMENT OF WITH LONG HORIZONTAL STROKEdoVERTICAL BAR AT END OFawSMALL",
  "aELEMENT OF WITH DOT ABOVEdOVERBARaqSMALLaELEMENT OF WITH UNDERBARdTWO HORIZONTAL STROKES",
  "aCONTAINS WITH LONG HORIZONTAL STROKEcoVERTICAL BAR AT END OFavSMALLaCONTAINS WITH OVERBAR",
  "apSMALLaZ NOTATION BAG MEMBERSHIPaDIAMETER SIGNaELECTRIC ARROWaHOUSEaUP ARROWHEADanDOWN",
  "aPROJECTIVEaPERSPECTIVEaWAVY LINEaLEFT CEILINGanRIGHTaLEFT FLOORanRIGHTaBOTTOM RIGHT CROP",
  "bnLEFTanTOP RIGHTbnLEFTaREVERSED NOT SIGNaSQUARE LOZENGEaARCaSEGMENTaSECTOR",
  "aTELEPHONE RECORDERaPOSITION INDICATORaVIEWDATA SQUAREaPLACE OF INTEREST SIGNanTURNED NOT",
  "aWATCHaHOURGLASSaTOP LEFT CORNERbnRIGHTanBOTTOM LEFTbnRIGHTaTOP HALF INTEGRALaoBOTTOMaFROWN",
  "aSMILEaUP ARROWHEAD BETWEEN TWO HORIZONTAL BARSaOPTION KEYaERASE TO THE RIGHT",
  "aX IN A RECTANGLE BOXaKEYBOARDaLEFT-POINTING ANGLE BRACKETaoRIGHT-POINTINGaERASE TO THE LEFT",
  "aBENZENE RINGaCYLINDRICITYaALL AROUND-PROFILEaSYMMETRYaTOTAL RUNOUTaDIMENSION ORIGIN",
  "aCONICAL TAPERaSLOPEaCOUNTERBOREaCOUNTERSINKaAPL FUNCTIONAL SYMBOL I-BEAMdSQUISH QUAD",
  "dQUAD EQUALeDIVIDEeDIAMONDeJOTeCIRCLEdCIRCLE STILEeJOTdSLASH BARdnBACKSLASHdQUAD SLASH",
  "eBACKSLASHeLESS-THANeGREATER-THANdLEFTWARDS VANEdnRIGHTWARDSdQUAD LEFTWARDS ARROWenRIGHTWARDS",
  "dCIRCLE BACKSLASHdDOWN TACK UNDERBARdDELTA STILEdQUAD DOWN CARETeDELTAdDOWN TACK JOT",
  "dUPWARDS VANEdQUAD UPWARDS ARROWdUP TACK OVERBARdDEL STILEdQUAD UP CARETeDELdUP TACK JOT",
  "dDOWNWARDS VANEdQUAD DOWNWARDS ARROWdQUOTE UNDERBARdnDELTAdnDIAMONDdnJOTdnCIRCLEdUP SHOE JOT",
  "dQUOTE QUADdCIRCLE STARdQUAD COLONdUP TACK DIAERESISdnDELdnSTARdnJOTdnCIRCLEdDOWN SHOE STILE",
  "doLEFTdTILDE DIAERESISdnGREATER-THANdCOMMA BARdDEL TILDEdZILDEdSTILE TILDEdSEMICOLON UNDERBAR",
  "dQUAD NOT EQUALeQUESTIONdDOWN CARET TILDEdoUPdIOTAdRHOdOMEGAdALPHA UNDERBARdnEPSILONdnIOTA",
  "dnOMEGAdALPHAaNOT CHECK MARKaRIGHT ANGLE WITH DOWNWARDS ZIGZAG ARROWaSHOULDERED OPEN BOX",
  "aBELL SYMBOLaVERTICAL LINE WITH MIDDLE DOTaINSERTION SYMBOLanCONTINUOUS UNDERLINE",
  "aoDISCONTINUOUSanEMPHASISanCOMPOSITIONaWHITE SQUARE WITH CENTRE VERTICAL LINEaENTER SYMBOL",
  "anALTERNATIVE KEYanHELMaCIRCLED HORIZONTAL BAR WITH NOTCHbTRIANGLE DOWN",
  "aBROKEN CIRCLE WITH NORTHWEST ARROWaUNDO SYMBOLanMONOSTABLEanHYSTERESIS",
  "anOPEN-CIRCUIT-OUTPUT H-TYPEbnL-TYPEanPASSIVE-PULL-DOWN-OUTPUTanPASSIVE-PULL-UP-OUTPUT",
  "aDIRECT CURRENT SYMBOL FORM TWOaSOFTWARE-FUNCTION SYMBOLaAPL FUNCTIONAL SYMBOL QUAD",
  "aDECIMAL SEPARATOR KEY SYMBOLaPREVIOUS PAGEanNEXTaPRINT SCREEN SYMBOLaoCLEAR",
  "aLEFT PARENTHESIS UPPER HOOKcEXTENSIONcLOWER HOOKanRIGHT PARENTHESIS UPPERcEXTENSION",
  "cLOWER HOOKaLEFT SQUARE BRACKET UPPER CORNERdEXTENSIONdLOWER CORNER",
  "anRIGHT SQUARE BRACKET UPPERdEXTENSIONdLOWER CORNERaLEFT CURLY BRACKET UPPER HOOK",
  "dMIDDLE PIECEdLOWER HOOKaCURLY BRACKET EXTENSIONaRIGHT CURLY BRACKET UPPER HOOKdMIDDLE PIECE",
  "dLOWER HOOKaINTEGRAL EXTENSIONanHORIZONTAL LINE",
  "aUPPER LEFT OR LOWER RIGHT CURLY BRACKET SECTIONbpRIGHT OR LOWER LEFTaSUMMATION TOPbBOTTOM",
  "aTOP SQUARE BRACKETaoBOTTOMdOVER TOP SQUARE BRACKETaRADICAL SYMBOL BOTTOM",
  "aLEFT VERTICAL BOX LINEapRIGHTaHORIZONTAL SCAN LINE-1cLINE-3cLINE-7cLINE-9",
  "aDENTISTRY SYMBOL LIGHT VERTICAL AND TOP RIGHTfnBOTTOMeWITH CIRCLEdoDOWN AND HORIZONTALdqUP",
  "dVERTICAL WITH TRIANGLEdoDOWN AND HORIZONTALdqUPdVERTICAL AND WAVEdnDOWN AND HORIZONTAL WITH",
  "dqUPdDOWN AND HORIZONTALdoUPdVERTICAL AND TOP LEFTfnBOTTOMaSQUARE FOOTaRETURN SYMBOLanEJECT",
  "aVERTICAL LINE EXTENSIONaMETRICAL BREVEbLONG OVER SHORTbSHORT OVER LONGbLONG OVER TWO SHORTS",
  "bTWO SHORTS OVER LONGdJOINEDbTRISEMEbTETRASEMEbPENTASEMEaEARTH GROUNDaFUSEaTOP PARENTHESIS",
  "anBOTTOMaTOP CURLY BRACKETaoBOTTOManTOP TORTOISE SHELLapBOTTOMaWHITE TRAPEZIUM",
  "aBENZENE RING WITH CIRCLEaSTRAIGHTNESSaFLATNESSaAC CURRENTaELECTRICAL INTERSECTION",
  "aDECIMAL EXPONENT SYMBOLaBLACK RIGHT-POINTING DOUBLE TRIANGLEboLEFT-POINTINGboUP-POINTING",
  "boDOWN-POINTINGbRIGHT-POINTING DOUBLE TRIANGLE WITH VERTICAL BARbrLEFT-POINTING",
  "boRIGHT-POINTING TRIANGLE WITH DOUBLEaALARM CLOCKaSTOPWATCHaTIMER CLOCK",
  "aHOURGLASS WITH FLOWING SANDaBLACK MEDIUM LEFT-POINTING TRIANGLEcnRIGHT-POINTINGcnUP-POINTING",
  "cnDOWN-POINTINGaDOUBLE VERTICAL BARaBLACK SQUARE FOR STOPbCIRCLE FOR RECORDaPOWER SYMBOL",
  "bnON-OFFbnONbnSLEEPanOBSERVER EYEaSYMBOL FOR NULLcSTART OF HEADINGeTEXTcoENDeTRANSMISSION",
  "cENQUIRYcACKNOWLEDGEcBELLcBACKSPACEcHORIZONTAL TABULATIONcLINE FEEDcVERTICAL TABULATION",
  "cFORM FEEDcCARRIAGE RETURNcSHIFT OUTdINcDATA LINK ESCAPEcDEVICE CONTROL ONEeTWOeTHREEeFOUR",
  "cNEGATIVE ACKNOWLEDGEcSYNCHRONOUS IDLEcEND OF TRANSMISSION BLOCKcCANCELcEND OF MEDIUM",
  "cSUBSTITUTEcESCAPEcFILE SEPARATORcnGROUPcnRECORDcnUNITcSPACEcDELETEaBLANK SYMBOLaOPEN BOX",
  "aSYMBOL FOR NEWLINEcDELETE FORM TWOcoSUBSTITUTE=2440aOCR HOOKbCHAIRbFORKbnINVERTED",
  "bBELT BUCKLEbBOW TIEbBRANCH BANK IDENTIFICATIONbAMOUNT OF CHECKbDASHbCUSTOMER ACCOUNT NUMBER",
  "bDOUBLE BACKSLASH=2460aCIRCLED DIGIT ONEcTWOcTHREEcFOURcFIVEcSIXcSEVENcEIGHTcNINEbNUMBER TEN",
  "cELEVENcTWELVEcTHIRTEENcFOURTEENcFIFTEENcSIXTEENcSEVENTEENcEIGHTEENcNINETEENcTWENTY",
  "aPARENTHESIZED DIGIT ONEcTWOcTHREEcFOURcFIVEcSIXcSEVENcEIGHTcNINEbNUMBER TENcELEVENcTWELVE",
  "cTHIRTEENcFOURTEENcFIFTEENcSIXTEENcSEVENTEENcEIGHTEENcNINETEENcTWENTYaDIGIT ONE FULL STOP",
  "boTWOboTHREEboFOURboFIVEboSIXboSEVENboEIGHTboNINEaoNUMBER TENboELEVENboTWELVEboTHIRTEEN",
  "boFOURTEENboFIFTEENboSIXTEENboSEVENTEENboEIGHTEENboNINETEENboTWENTY",
  "aPARENTHESIZED LATIN SMALL LETTER AeBeCeDeEeFeGeHeIeJeKeLeMeNeOePeQeReSeTeUeVeWeXeYeZ",
  "aCIRCLED LATIN CAPITAL LETTER AeBeCeDeEeFeGeHeIeJeKeLeMeNeOePeQeReSeTeUeVeWeXeYeZ",
  "cSMALL LETTER AeBeCeDeEeFeGeHeIeJeKeLeMeNeOePeQeReSeTeUeVeWeXeYeZbDIGIT ZERO",
  "aNEGATIVE CIRCLED NUMBER ELEVENdTWELVEdTHIRTEENdFOURTEENdFIFTEENdSIXTEENdSEVENTEENdEIGHTEEN",
  "dNINETEENdTWENTYaDOUBLE CIRCLED DIGIT ONEdTWOdTHREEdFOURdFIVEdSIXdSEVENdEIGHTdNINEcNUMBER TEN",
  "aNEGATIVE CIRCLED DIGIT ZERO"
]

end ApiRouter.Text.Name
