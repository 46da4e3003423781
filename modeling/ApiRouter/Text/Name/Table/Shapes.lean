set_option autoImplicit false

/-! # Names of characters

Boxes, geometric shapes, ornaments, Braille patterns and further arrows. -/

namespace ApiRouter.Text.Name

/-- The names of the characters from 2500 to 2BFF. -/
def shapes : List String := [
  "=2500aBOX DRAWINGS LIGHT HORIZONTALcnHEAVYcLIGHT VERTICALcnHEAVYcLIGHT TRIPLE DASH HORIZONTAL",
  "cpHEAVYcLIGHT TRIPLE DASH VERTICALcpHEAVYcLIGHT QUADRUPLE DASH HORIZONTALcpHEAVY",
  "cLIGHT QUADRUPLE DASH VERTICALcpHEAVYcLIGHT DOWN AND RIGHTcDOWN LIGHT AND RIGHT HEAVY",
  "dHEAVY AND RIGHT LIGHTcHEAVY DOWN AND RIGHTcLIGHT DOWN AND LEFTcDOWN LIGHT AND LEFT HEAVY",
  "dHEAVY AND LEFT LIGHTcHEAVY DOWN AND LEFTcLIGHT UP AND RIGHTcUP LIGHT AND RIGHT HEAVY",
  "dHEAVY AND RIGHT LIGHTcHEAVY UP AND RIGHTcLIGHT UP AND LEFTcUP LIGHT AND LEFT HEAVY",
  "dHEAVY AND LEFT LIGHTcHEAVY UP AND LEFTcLIGHT VERTICAL AND RIGHT",
  "cVERTICAL LIGHT AND RIGHT HEAVYcUP HEAVY AND RIGHT DOWN LIGHTcnDOWN HEAVY AND RIGHT UP",
  "cnVERTICAL HEAVY AND RIGHTcDOWN LIGHT AND RIGHT UP HEAVYcnUP LIGHT AND RIGHT DOWN",
  "cHEAVY VERTICAL AND RIGHTcLIGHT VERTICAL AND LEFTcVERTICAL LIGHT AND LEFT HEAVY",
  "cUP HEAVY AND LEFT DOWN LIGHTcnDOWN HEAVY AND LEFT UPcnVERTICAL HEAVY AND LEFT",
  "cDOWN LIGHT AND LEFT UP HEAVYcnUP LIGHT AND LEFT DOWNcHEAVY VERTICAL AND LEFT",
  "cLIGHT DOWN AND HORIZONTALcLEFT HEAVY AND RIGHT DOWN LIGHTcoRIGHT HEAVY AND LEFT",
  "cDOWN LIGHT AND HORIZONTAL HEAVYdHEAVY AND HORIZONTAL LIGHTcRIGHT LIGHT AND LEFT DOWN HEAVY",
  "coLEFT LIGHT AND RIGHTcHEAVY DOWN AND HORIZONTALcoLIGHT UPcLEFT HEAVY AND RIGHT UP LIGHT",
  "coRIGHT HEAVY AND LEFTcUP LIGHT AND HORIZONTAL HEAVYdHEAVY AND HORIZONTAL LIGHT",
  "cRIGHT LIGHT AND LEFT UP HEAVYcoLEFT LIGHT AND RIGHTcHEAVY UP AND HORIZONTALcoLIGHT VERTICAL",
  "cLEFT HEAVY AND RIGHT VERTICAL LIGHTcoRIGHT HEAVY AND LEFT",
  "cVERTICAL LIGHT AND HORIZONTAL HEAVYcUP HEAVY AND DOWN HORIZONTAL LIGHTcoDOWN HEAVY AND UP",
  "coVERTICAL HEAVY ANDcnLEFT UP HEAVY AND RIGHT DOWNcoRIGHT UP HEAVY AND LEFT",
  "cnLEFT DOWN HEAVY AND RIGHT UPcoRIGHT DOWN HEAVY AND LEFTcDOWN LIGHT AND UP HORIZONTAL HEAVY",
  "coUP LIGHT AND DOWNcnRIGHT LIGHT AND LEFT VERTICALcoLEFT LIGHT AND RIGHT",
  "cHEAVY VERTICAL AND HORIZONTALcnLIGHT DOUBLE DASHcpHEAVYcLIGHT DOUBLE DASH VERTICALcpHEAVY",
  "cDOUBLE HORIZONTALdVERTICALcDOWN SINGLE AND RIGHT DOUBLEdDOUBLE AND RIGHT SINGLE",
  "cDOUBLE DOWN AND RIGHTcDOWN SINGLE AND LEFT DOUBLEdDOUBLE AND LEFT SINGLE",
  "cDOUBLE DOWN AND LEFTcUP SINGLE AND RIGHT DOUBLEdDOUBLE AND RIGHT SINGLEcDOUBLE UP AND RIGHT",
  "cUP SINGLE AND LEFT DOUBLEdDOUBLE AND LEFT SINGLEcDOUBLE UP AND LEFT",
  "cVERTICAL SINGLE AND RIGHT DOUBLEdDOUBLE AND RIGHT SINGLEcDOUBLE VERTICAL AND RIGHT",
  "cVERTICAL SINGLE AND LEFT DOUBLEdDOUBLE AND LEFT SINGLEcDOUBLE VERTICAL AND LEFT",
  "cDOWN SINGLE AND HORIZONTAL DOUBLEdDOUBLE AND HORIZONTAL SINGLEcDOUBLE DOWN AND HORIZONTAL",
  "cUP SINGLE AND HORIZONTAL DOUBLEdDOUBLE AND HORIZONTAL SINGLEcDOUBLE UP AND HORIZONTAL",
  "cVERTICAL SINGLE AND HORIZONTAL DOUBLEdDOUBLE AND HORIZONTAL SINGLE",
  "cDOUBLE VERTICAL AND HORIZONTALcLIGHT ARC DOWN AND RIGHTgLEFTeoUPgRIGHT",
  "dDIAGONAL UPPER RIGHT TO LOWER LEFTfLEFT TO LOWER RIGHTeCROSSdLEFTdUPdRIGHTdDOWNcHEAVY LEFT",
  "dUPdRIGHTdDOWNcLIGHT LEFT AND HEAVY RIGHTdUP AND HEAVY DOWNcHEAVY LEFT AND LIGHT RIGHT",
  "dUP AND LIGHT DOWNaUPPER HALF BLOCKanLOWER ONE EIGHTHcnQUARTERbnTHREE EIGHTHSbnHALF",
  "bnFIVE EIGHTHSbnTHREE QUARTERSbnSEVEN EIGHTHSanFULLanLEFT SEVEN EIGHTHSbnTHREE QUARTERS",
  "bnFIVE EIGHTHSbnHALFbnTHREE EIGHTHSbnONE QUARTERcnEIGHTHanRIGHT HALFaLIGHT SHADEanMEDIUM",
  "anDARKaUPPER ONE EIGHTH BLOCKapRIGHTaQUADRANT LOWER LEFTcRIGHTbUPPER LEFT",
  "dAND LOWER LEFT AND LOWER RIGHTfneUPPER RIGHT AND LOWER LEFTiRIGHTcndAND LOWER LEFT",
  "gAND LOWER RIGHTaBLACK SQUAREanWHITEcWITH ROUNDED CORNERScCONTAINING BLACK SMALL SQUARE",
  "aSQUARE WITH HORIZONTAL FILLcnVERTICALcnORTHOGONAL CROSSHATCHcnUPPER LEFT TO LOWER RIGHT",
  "dnRIGHT TO LOWER LEFTcnDIAGONAL CROSSHATCHaBLACK SMALL SQUAREaoWHITEaBLACK RECTANGLEanWHITE",
  "anBLACK VERTICALaoWHITEaBLACK PARALLELOGRAManWHITEaBLACK UP-POINTING TRIANGLEaoWHITE",
  "anBLACK UP-POINTING SMALLapWHITEanBLACK RIGHT-POINTINGaoWHITEanBLACK RIGHT-POINTING SMALL",
  "apWHITEaBLACK RIGHT-POINTING POINTERaoWHITEaBLACK DOWN-POINTING TRIANGLEaoWHITE",
  "anBLACK DOWN-POINTING SMALLapWHITEanBLACK LEFT-POINTINGaoWHITEanBLACK LEFT-POINTING SMALL",
  "apWHITEaBLACK LEFT-POINTING POINTERaoWHITEaBLACK DIAMONDanWHITE",
  "cCONTAINING BLACK SMALL DIAMONDaFISHEYEaLOZENGEaWHITE CIRCLEanDOTTED",
  "aCIRCLE WITH VERTICAL FILLaBULLSEYEaBLACK CIRCLEaCIRCLE WITH LEFT HALF BLACKcoRIGHTcoLOWER",
  "coUPPERdnRIGHT QUADRANTcoALL BUT UPPER LEFTaLEFT HALF BLACK CIRCLEapRIGHTaINVERSE BULLET",
  "bWHITE CIRCLEapUPPER HALFaqLOWERaUPPER LEFT QUADRANT CIRCULAR ARCbpRIGHTaqLOWERbpLEFT",
  "aUPPER HALF CIRCLEaoLOWERaBLACK LOWER RIGHT TRIANGLEcnLEFTboUPPERcnRIGHTaWHITE BULLET",
  "aSQUARE WITH LEFT HALF BLACKcoRIGHTcoUPPER LEFT DIAGONALcpLOWER RIGHT",
  "aWHITE SQUARE WITH VERTICAL BISECTING LINEbUP-POINTING TRIANGLE WITH DOT",
  "aUP-POINTING TRIANGLE WITH LEFT HALF BLACKdoRIGHTaLARGE CIRCLE",
  "aWHITE SQUARE WITH UPPER LEFT QUADRANTdoLOWERenRIGHTdoUPPERbnCIRCLE WITH UPPER LEFTdoLOWER",
  "enRIGHTdoUPPERaUPPER LEFT TRIANGLEbnRIGHTanLOWER LEFTaWHITE MEDIUM SQUAREaoBLACK",
  "anWHITE MEDIUM SMALLapBLACKaLOWER RIGHT TRIANGLEaBLACK SUN WITH RAYSaCLOUDaUMBRELLAaSNOWMAN",
  "aCOMETaBLACK STARanWHITEaLIGHTNINGaTHUNDERSTORMaSUNaASCENDING NODEanDESCENDINGaCONJUNCTION",
  "aOPPOSITIONaBLACK TELEPHONEanWHITEaBALLOT BOXcWITH CHECKdXaSALTIREaUMBRELLA WITH RAIN DROPS",
  "aHOT BEVERAGEaWHITE SHOGI PIECEaoBLACKaSHAMROCKaREVERSED ROTATED FLORAL HEART BULLET",
  "aBLACK LEFT POINTING INDEXboRIGHTaoWHITE LEFTboUPboRIGHTboDOWNaSKULL AND CROSSBONES",
  "aCAUTION SIGNanRADIOACTIVEanBIOHAZARDaCADUCEUSaANKHaORTHODOX CROSSaCHI RHOaCROSS OF LORRAINE",
  "cJERUSALEMaSTAR AND CRESCENTaFARSI SYMBOLaADI SHAKTIaHAMMER AND SICKLEaPEACE SYMBOLaYIN YANG",
  "aTRIGRAM FOR HEAVENcLAKEcFIREcTHUNDERcWINDcWATERcMOUNTAINcEARTHaWHEEL OF DHARMA",
  "aWHITE FROWNING FACEbnSMILINGaoBLACKaWHITE SUN WITH RAYSaFIRST QUARTER MOONaoLASTaMERCURY",
  "aFEMALE SIGNaEARTHaMALE SIGNaJUPITERaSATURNaURANUSaNEPTUNEaPLUTOaARIESaTAURUSaGEMINIaCANCER",
  "aLEOaVIRGOaLIBRAaSCORPIUSaSAGITTARIUSaCAPRICORNaAQUARIUSaPISCESaWHITE CHESS KINGcQUEENcROOK",
  "cBISHOPcKNIGHTcPAWNaBLACK CHESS KINGcQUEENcROOKcBISHOPcKNIGHTcPAWNbSPADE SUITanWHITE HEART",
  "bnDIAMONDanBLACK CLUBanWHITE SPADEanBLACK HEARTbnDIAMONDanWHITE CLUBaHOT SPRINGSaQUARTER NOTE",
  "anEIGHTHaBEAMED EIGHTH NOTESbnSIXTEENTHaMUSIC FLAT SIGNbnNATURALbnSHARPaWEST SYRIAC CROSS",
  "aoEASTaUNIVERSAL RECYCLING SYMBOLaRECYCLING SYMBOL FOR TYPE-1 PLASTICSdnTYPE-2dnTYPE-3",
  "dnTYPE-4dnTYPE-5dnTYPE-6dnTYPE-7dGENERIC MATERIALSaBLACK UNIVERSAL RECYCLING SYMBOL",
  "anRECYCLED PAPERaoPARTIALLY-RECYCLEDaPERMANENT PAPER SIGNaWHEELCHAIR SYMBOLaDIE FACE-1+5",
  "aWHITE CIRCLE WITH DOT RIGHTdTWO DOTSaBLACK CIRCLE WITH WHITE DOT RIGHTdTWO WHITE DOTS",
  "aMONOGRAM FOR YANGcYINaDIGRAM FOR GREATER YANGcLESSER YINdYANGcGREATER YINaWHITE FLAGanBLACK",
  "aHAMMER AND PICKaANCHORaCROSSED SWORDSaSTAFF OF AESCULAPIUSaSCALESaALEMBICaFLOWERaGEAR",
  "aSTAFF OF HERMESaATOM SYMBOLaFLEUR-DE-LISaOUTLINED WHITE STARaTHREE LINES CONVERGING RIGHT",
  "dLEFTaWARNING SIGNanHIGH VOLTAGEanDOUBLED FEMALEbnMALEaoINTERLOCKED FEMALE AND",
  "anMALE AND FEMALEbnWITH STROKEdnAND MALE AND FEMALEanVERTICAL MALE WITH STROKEaqHORIZONTAL",
  "aMEDIUM WHITE CIRCLEbnBLACKbnSMALL WHITEaMARRIAGE SYMBOLanDIVORCEanUNMARRIED PARTNERSHIP",
  "aCOFFINaFUNERAL URNaNEUTERaCERESaPALLASaJUNOaVESTAaCHIRONaBLACK MOON LILITHaSEXTILE",
  "aSEMISEXTILEaQUINCUNXaSESQUIQUADRATEaSOCCER BALLaBASEBALLaSQUARED KEYaWHITE DRAUGHTS MANcKING",
  "aBLACK DRAUGHTS MANcKINGaSNOWMAN WITHOUT SNOWaSUN BEHIND CLOUDaRAINaBLACK SNOWMAN",
  "aTHUNDER CLOUD AND RAINaTURNED WHITE SHOGI PIECEboBLACKaWHITE DIAMOND IN SQUARE",
  "aCROSSING LANESaDISABLED CARaOPHIUCHUSaPICKaCAR SLIDINGaHELMET WITH WHITE CROSS",
  "aCIRCLED CROSSING LANESaCHAINSaNO ENTRYaALTERNATE ONE-WAY LEFT WAY TRAFFICapBLACK TWO-WAY",
  "aqWHITEaBLACK LEFT LANE MERGEapWHITEaDRIVE SLOW SIGNaHEAVY WHITE DOWN-POINTING TRIANGLE",
  "aLEFT CLOSED ENTRYaSQUARED SALTIREaFALLING DIAGONAL IN WHITE CIRCLE IN BLACK SQUARE",
  "aBLACK TRUCKaRESTRICTED LEFT ENTRY-1+1aASTRONOMICAL SYMBOL FOR URANUS",
  "aHEAVY CIRCLE WITH STROKE AND TWO DOTS ABOVEaPENTAGRAManRIGHT-HANDED INTERLACEDaoLEFT-HANDED",
  "anINVERTEDaBLACK CROSS ON SHIELDaSHINTO SHRINEaCHURCHaCASTLEaHISTORIC SITEaGEAR WITHOUT HUB",
  "bWITH HANDLESaMAP SYMBOL FOR LIGHTHOUSEaMOUNTAINaUMBRELLA ON GROUNDaFOUNTAINaFLAG IN HOLE",
  "aFERRYaSAILBOATaSQUARE FOUR CORNERSaSKIERaICE SKATEaPERSON WITH BALLaTENT",
  "aJAPANESE BANK SYMBOLanHEADSTONE GRAVEYARDaFUEL PUMPaCUP ON BLACK SQUARE",
  "aWHITE FLAG WITH HORIZONTAL MIDDLE BLACK STRIPEaBLACK SAFETY SCISSORSanUPPER BLADEanBLACK",
  "anLOWER BLADEanWHITEbHEAVY CHECK MARKaTELEPHONE LOCATION SIGNaTAPE DRIVEaAIRPLANEaENVELOPE",
  "aRAISED FISTbHANDanVICTORYanWRITINGaLOWER RIGHT PENCILananUPPER RIGHTaWHITE NIBanBLACK",
  "aCHECK MARKaoHEAVYaMULTIPLICATION XaoHEAVYanBALLOTaoHEAVYaOUTLINED GREEK CROSSaoHEAVY",
  "anOPEN CENTREapHEAVYanLATINaoSHADOWED WHITEaoOUTLINEDanMALTESEaSTAR OF DAVID",
  "aFOUR TEARDROP-SPOKED ASTERISKbnBALLOON-SPOKEDapHEAVYanFOUR CLUB-SPOKED",
  "aBLACK FOUR POINTED STARapWHITEaSPARKLESaSTRESS OUTLINED WHITE STARaoCIRCLED",
  "anOPEN CENTRE BLACKanBLACK CENTRE WHITEanOUTLINED BLACKapHEAVYanPINWHEELanSHADOWED WHITE",
  "aHEAVY ASTERISKanOPEN CENTREanEIGHT SPOKEDbPOINTED BLACK STARcnPINWHEELanSIX POINTED BLACK",
  "aoEIGHT POINTED RECTILINEARarHEAVYaoTWELVE POINTEDaSIXTEEN POINTED ASTERISKanTEARDROP-SPOKED",
  "aoOPEN CENTREaoHEAVYaSIX PETALLED BLACK AND WHITE FLORETTEanBLACKanWHITE",
  "anEIGHT PETALLED OUTLINED BLACKaCIRCLED OPEN CENTRE EIGHT POINTED STAR",
  "aHEAVY TEARDROP-SPOKED PINWHEEL ASTERISKaSNOWFLAKEanTIGHT TRIFOLIATEanHEAVY CHEVRONaSPARKLE",
  "anHEAVYaBALLOON-SPOKED ASTERISKanEIGHT TEARDROP-SPOKED PROPELLERaqHEAVYaCROSS MARK",
  "aSHADOWED WHITE CIRCLEaNEGATIVE SQUARED CROSS MARKaLOWER RIGHT DROP-SHADOWED WHITE SQUARE",
  "aqUPPERaoLOWER RIGHT SHADOWEDaqUPPERaBLACK QUESTION MARK ORNAMENTapWHITEboEXCLAMATION",
  "aBLACK DIAMOND MINUS WHITE XaHEAVY EXCLAMATION MARK SYMBOLaLIGHT VERTICAL BARaoMEDIUMaoHEAVY",
  "bSINGLE TURNED COMMA QUOTATION MARK ORNAMENTcqbqDOUBLE TURNEDcqbqLOW SINGLEcqDOUBLE",
  "anCURVED STEM PARAGRAPH SIGNanHEAVY EXCLAMATION MARKbpHEARTbBLACK HEART",
  "aROTATED HEAVY BLACK HEART BULLETaFLORAL HEARTaROTATED FLORAL HEART BULLET",
  "aMEDIUM LEFT PARENTHESIS ORNAMENTboRIGHTboFLATTENED LEFTcoRIGHTbnLEFT-POINTING ANGLE BRACKET",
  "bpRIGHT-POINTINGanHEAVY LEFT-POINTING ANGLE QUOTATION MARKbqRIGHT-POINTING",
  "bnLEFT-POINTING ANGLE BRACKETbpRIGHT-POINTINGaoLIGHT LEFT TORTOISE SHELLbqRIGHT",
  "aoMEDIUM LEFT CURLYbpRIGHTaDINGBAT NEGATIVE CIRCLED DIGIT ONEeTWOeTHREEeFOUReFIVEeSIXeSEVEN",
  "eEIGHTeNINEdNUMBER TENbCIRCLED SANS-SERIF DIGIT ONEeTWOeTHREEeFOUReFIVEeSIXeSEVENeEIGHTeNINE",
  "dNUMBER TENbNEGATIVE CIRCLED SANS-SERIF DIGIT ONEfTWOfTHREEfFOURfFIVEfSIXfSEVENfEIGHTfNINE",
  "eNUMBER TENaHEAVY WIDE-HEADED RIGHTWARDS ARROWbPLUS SIGNbnMINUSbnDIVISIONbSOUTH EAST ARROW",
  "bnRIGHTWARDSbnNORTH EASTanDRAFTING POINT RIGHTWARDSaoHEAVY ROUND-TIPPEDaoTRIANGLE-HEADED",
  "apHEAVYapDASHEDaqHEAVYaoBLACKaTHREE-D TOP-LIGHTED RIGHTWARDS ARROWHEADboBOTTOM-LIGHTEDaoBLACK",
  "aHEAVY BLACK CURVED DOWNWARDS AND RIGHTWARDS ARROWdpUPWARDSaoSQUAT BLACK",
  "apHEAVY CONCAVE-POINTEDaoRIGHT-SHADED WHITEapLEFT-SHADEDapBACK-TILTED SHADOWEDaqFRONT-TILTED",
  "apHEAVY LOWER RIGHT-SHADOWEDbqUPPERaqNOTCHED LOWERaCURLY LOOP",
  "aNOTCHED UPPER RIGHT-SHADOWED WHITE RIGHTWARDS ARROWapCIRCLED HEAVYaoWHITE-FEATHERED",
  "anBLACK-FEATHERED SOUTH EASTbnRIGHTWARDSbnNORTH EASTaoHEAVY BLACK-FEATHERED SOUTHcnRIGHTWARDS",
  "cnNORTH EASTanTEARDROP-BARBED RIGHTWARDSaoHEAVY TEARDROP-SHANKEDaoWEDGE-TAILEDapHEAVY",
  "aoOPEN-OUTLINEDaDOUBLE CURLY LOOPaTHREE DIMENSIONAL ANGLE",
  "aWHITE TRIANGLE CONTAINING SMALL WHITE TRIANGLEaPERPENDICULARaOPEN SUBSETbSUPERSET",
  "aLEFT S-SHAPED BAG DELIMITERapRIGHTaOR WITH DOT INSIDEaREVERSE SOLIDUS PRECEDING SUBSET",
  "aSUPERSET PRECEDING SOLIDUSaVERTICAL BAR WITH HORIZONTAL STROKEaMATHEMATICAL RISING DIAGONAL",
  "aLONG DIVISIONaMATHEMATICAL FALLING DIAGONALaSQUARED LOGICAL ANDcOR",
  "aWHITE DIAMOND WITH CENTRED DOTanAND WITHaELEMENT OF OPENING UPWARDS",
  "aLOWER RIGHT CORNER WITH DOTapUPPER LEFTaLEFT OUTER JOINaoRIGHTaoFULLaLARGE UP TACKbnDOWN",
  "aLEFT AND RIGHT DOUBLE TURNSTILEdTACKbMULTIMAPaLONG RIGHT TACKbnLEFT",
  "aUP TACK WITH CIRCLE ABOVEaLOZENGE DIVIDED BY HORIZONTAL RULEaWHITE CONCAVE-SIDED DIAMOND",
  "dWITH LEFTWARDS TICKenRIGHTWARDSbnSQUARE WITH LEFTWARDSdnRIGHTWARDS",
  "aMATHEMATICAL LEFT WHITE SQUARE BRACKETbpRIGHTbnLEFT ANGLEboRIGHTboLEFT DOUBLEbpRIGHT",
  "bnLEFT WHITE TORTOISE SHELLbqRIGHTbLEFT FLATTENED PARENTHESISboRIGHTaUPWARDS QUADRUPLE ARROW",
  "aoDOWNWARDSanANTICLOCKWISE GAPPED CIRCLEapCLOCKWISEaRIGHT ARROW WITH CIRCLED PLUS",
  "aLONG LEFTWARDS ARROWbnRIGHTWARDSbnLEFT RIGHTbnLEFTWARDS DOUBLEboRIGHTWARDSboLEFT RIGHT",
  "bLEFTWARDS ARROW FROM BARbpRIGHTWARDSbpLEFTWARDS DOUBLEbqRIGHTWARDScSQUIGGLE ARROW",
  "aBRAILLE PATTERN BLANKcDOTS-1+1cDOTS-12cDOTS-3cDOTS-13cDOTS-23cDOTS-123cDOTS-4cDOTS-14",
  "cDOTS-24cDOTS-124cDOTS-34cDOTS-134cDOTS-234cDOTS-1234cDOTS-5cDOTS-15cDOTS-25cDOTS-125cDOTS-35",
  "cDOTS-135cDOTS-235cDOTS-1235cDOTS-45cDOTS-145cDOTS-245cDOTS-1245cDOTS-345cDOTS-1345cDOTS-2345",
  "cDOTS-12345cDOTS-6cDOTS-16cDOTS-26cDOTS-126cDOTS-36cDOTS-136cDOTS-236cDOTS-1236cDOTS-46",
  "cDOTS-146cDOTS-246cDOTS-1246cDOTS-346cDOTS-1346cDOTS-2346cDOTS-12346cDOTS-56cDOTS-156",
  "cDOTS-256cDOTS-1256cDOTS-356cDOTS-1356cDOTS-2356cDOTS-12356cDOTS-456cDOTS-1456cDOTS-2456",
  "cDOTS-12456cDOTS-3456cDOTS-13456cDOTS-23456cDOTS-123456cDOTS-7cDOTS-17cDOTS-27cDOTS-127",
  "cDOTS-37cDOTS-137cDOTS-237cDOTS-1237cDOTS-47cDOTS-147cDOTS-247cDOTS-1247cDOTS-347cDOTS-1347",
  "cDOTS-2347cDOTS-12347cDOTS-57cDOTS-157cDOTS-257cDOTS-1257cDOTS-357cDOTS-1357cDOTS-2357",
  "cDOTS-12357cDOTS-457cDOTS-1457cDOTS-2457cDOTS-12457cDOTS-3457cDOTS-13457cDOTS-23457",
  "cDOTS-123457cDOTS-67cDOTS-167cDOTS-267cDOTS-1267cDOTS-367cDOTS-1367cDOTS-2367cDOTS-12367",
  "cDOTS-467cDOTS-1467cDOTS-2467cDOTS-12467cDOTS-3467cDOTS-13467cDOTS-23467cDOTS-123467cDOTS-567",
  "cDOTS-1567cDOTS-2567cDOTS-12567cDOTS-3567cDOTS-13567cDOTS-23567cDOTS-123567cDOTS-4567",
  "cDOTS-14567cDOTS-24567cDOTS-124567cDOTS-34567cDOTS-134567cDOTS-234567cDOTS-1234567cDOTS-8",
  "cDOTS-18cDOTS-28cDOTS-128cDOTS-38cDOTS-138cDOTS-238cDOTS-1238cDOTS-48cDOTS-148cDOTS-248",
  "cDOTS-1248cDOTS-348cDOTS-1348cDOTS-2348cDOTS-12348cDOTS-58cDOTS-158cDOTS-258cDOTS-1258",
  "cDOTS-358cDOTS-1358cDOTS-2358cDOTS-12358cDOTS-458cDOTS-1458cDOTS-2458cDOTS-12458cDOTS-3458",
  "cDOTS-13458cDOTS-23458cDOTS-123458cDOTS-68cDOTS-168cDOTS-268cDOTS-1268cDOTS-368cDOTS-1368",
  "cDOTS-2368cDOTS-12368cDOTS-468cDOTS-1468cDOTS-2468cDOTS-12468cDOTS-3468cDOTS-13468cDOTS-23468",
  "cDOTS-123468cDOTS-568cDOTS-1568cDOTS-2568cDOTS-12568cDOTS-3568cDOTS-13568cDOTS-23568",
  "cDOTS-123568cDOTS-4568cDOTS-14568cDOTS-24568cDOTS-124568cDOTS-34568cDOTS-134568cDOTS-234568",
  "cDOTS-1234568cDOTS-78cDOTS-178cDOTS-278cDOTS-1278cDOTS-378cDOTS-1378cDOTS-2378cDOTS-12378",
  "cDOTS-478cDOTS-1478cDOTS-2478cDOTS-12478cDOTS-3478cDOTS-13478cDOTS-23478cDOTS-123478cDOTS-578",
  "cDOTS-1578cDOTS-2578cDOTS-12578cDOTS-3578cDOTS-13578cDOTS-23578cDOTS-123578cDOTS-4578",
  "cDOTS-14578cDOTS-24578cDOTS-124578cDOTS-34578cDOTS-134578cDOTS-234578cDOTS-1234578cDOTS-678",
  "cDOTS-1678cDOTS-2678cDOTS-12678cDOTS-3678cDOTS-13678cDOTS-23678cDOTS-123678cDOTS-4678",
  "cDOTS-14678cDOTS-24678cDOTS-124678cDOTS-34678cDOTS-134678cDOTS-234678cDOTS-1234678cDOTS-5678",
  "cDOTS-15678cDOTS-25678cDOTS-125678cDOTS-35678cDOTS-135678cDOTS-235678cDOTS-1235678cDOTS-45678",
  "cDOTS-145678cDOTS-245678cDOTS-1245678cDOTS-345678cDOTS-1345678cDOTS-2345678cDOTS-12345678",
  "aRIGHTWARDS TWO-HEADED ARROW WITH VERTICAL STROKEeoDOUBLEaoLEFTWARDS DOUBLE ARROW WITH",
  "arRIGHTWARDSarLEFT RIGHTaRIGHTWARDS TWO-HEADED ARROW FROM BARapLEFTWARDS DOUBLEaqRIGHTWARDS",
  "aDOWNWARDS ARROW WITH HORIZONTAL STROKEaqUPWARDSbTRIPLE ARROWaoDOWNWARDS",
  "anLEFTWARDS DOUBLE DASHapRIGHTWARDSaoLEFTWARDS TRIPLEapRIGHTWARDSbpTWO-HEADED",
  "bARROW WITH DOTTED STEMaUPWARDS ARROW TO BARapDOWNWARDS",
  "aRIGHTWARDS ARROW WITH TAIL WITH VERTICAL STROKEfoDOUBLEbTWO-HEADED ARROW WITH TAIL",
  "fWITH VERTICAL STROKEgoDOUBLEaLEFTWARDS ARROW-TAILanRIGHTWARDSanLEFTWARDS DOUBLEaoRIGHTWARDS",
  "aLEFTWARDS ARROW TO BLACK DIAMONDaqRIGHTWARDSapLEFTWARDS ARROW FROM BARasRIGHTWARDS",
  "aNORTH WEST AND SOUTH EAST ARROWbnEAST AND SOUTH WESTbWEST ARROW WITH HOOKbpEASTaqSOUTHbpWEST",
  "aNORTH WEST ARROW AND NORTH EAST ARROWboEAST ARROW AND SOUTHanSOUTH EAST ARROW AND SOUTH WEST",
  "boWEST ARROW AND NORTHaRISING DIAGONAL CROSSING FALLING DIAGONAL",
  "anFALLING DIAGONAL CROSSING RISINGaSOUTH EAST ARROW CROSSING NORTH EAST ARROW",
  "aoNORTH EAST ARROW CROSSING SOUTHaoFALLING DIAGONAL CROSSING NORTH",
  "aoRISING DIAGONAL CROSSING SOUTHanNORTH EAST ARROW CROSSING NORTH WEST",
  "bnWEST ARROW CROSSING NORTH EASTaWAVE ARROW POINTING DIRECTLY RIGHT",
  "aARROW POINTING RIGHTWARDS THEN CURVING UPWARDSfDOWNWARDScDOWNWARDS THEN CURVING LEFTWARDS",
  "fRIGHTWARDSaRIGHT-SIDE ARC CLOCKWISE ARROWanLEFT-SIDE ARC ANTICLOCKWISEapTOPapBOTTOM",
  "aTOP ARC CLOCKWISE ARROW WITH MINUScANTICLOCKWISE ARROW WITH PLUS",
  "aLOWER RIGHT SEMICIRCULAR CLOCKWISE ARROWbnLEFT SEMICIRCULAR ANTICLOCKWISE",
  "anANTICLOCKWISE CLOSED CIRCLEapCLOCKWISEanRIGHTWARDS ARROW ABOVE SHORT LEFTWARDS",
  "anLEFTWARDS ARROW ABOVE SHORT RIGHTWARDSanSHORT RIGHTWARDS ARROW ABOVE LEFTWARDS",
  "aRIGHTWARDS ARROW WITH PLUS BELOWaqLEFTWARDSaRIGHTWARDS ARROW THROUGH X",
  "aLEFT RIGHT ARROW THROUGH SMALL CIRCLEaoUPWARDS TWO-HEADED ARROW FROM",
  "aLEFT BARB UP RIGHT BARB DOWN HARPOONcnDOWN RIGHT BARB UPanUP BARB RIGHT DOWN BARB LEFT",
  "cnLEFT DOWN BARB RIGHTanLEFT BARB UP RIGHT BARB UPanUP BARB RIGHT DOWN BARB RIGHT",
  "anLEFT BARB DOWN RIGHT BARB DOWNanUP BARB LEFT DOWN BARB LEFT",
  "aLEFTWARDS HARPOON WITH BARB UP TO BARasRIGHTWARDSaoUPWARDS HARPOON WITH BARB RIGHT",
  "asDOWNWARDSaoLEFTWARDS HARPOON WITH BARB DOWNasRIGHTWARDSaoUPWARDS HARPOON WITH BARB LEFT",
  "asDOWNWARDSanLEFTWARDS HARPOON WITH BARB UP FROMasRIGHTWARDSaoUPWARDS HARPOON WITH BARB RIGHT",
  "asDOWNWARDSaoLEFTWARDS HARPOON WITH BARB DOWNasRIGHTWARDSaoUPWARDS HARPOON WITH BARB LEFT",
  "asDOWNWARDSaLEFTWARDS HARPOON WITH BARB UP ABOVE LEFTWARDS HARPOON WITH BARB DOWN",
  "aUPWARDS HARPOON WITH BARB LEFT BESIDE UPWARDS HARPOON WITH BARB RIGHT",
  "aRIGHTWARDS HARPOON WITH BARB UP ABOVE RIGHTWARDS HARPOON WITH BARB DOWN",
  "aDOWNWARDS HARPOON WITH BARB LEFT BESIDE DOWNWARDS HARPOON WITH BARB RIGHT",
  "aLEFTWARDS HARPOON WITH BARB UP ABOVE RIGHTWARDS HARPOON WITH BARB UP",
  "eDOWN ABOVE RIGHTWARDS HARPOON WITH BARB DOWN",
  "aRIGHTWARDS HARPOON WITH BARB UP ABOVE LEFTWARDS HARPOON WITH BARB UP",
  "eDOWN ABOVE LEFTWARDS HARPOON WITH BARB DOWNaLEFTWARDS HARPOON WITH BARB UP ABOVE LONG DASH",
  "eoDOWN BELOWaoRIGHTWARDS HARPOON WITH BARB UP ABOVEeoDOWN BELOW",
  "aUPWARDS HARPOON WITH BARB LEFT BESIDE DOWNWARDS HARPOON WITH BARB RIGHT",
  "aqDOWNWARDS HARPOON WITH BARB LEFT BESIDE UPWARDSaRIGHT DOUBLE ARROW WITH ROUNDED HEAD",
  "aEQUALS SIGN ABOVE RIGHTWARDS ARROWapTILDE OPERATORaLEFTWARDS ARROW ABOVE TILDE OPERATOR",
  "aqRIGHTWARDSdALMOST EQUAL TOaLESS-THAN ABOVE LEFTWARDS ARROW",
  "aLEFTWARDS ARROW THROUGH LESS-THANaGREATER-THAN ABOVE RIGHTWARDS ARROWapSUBSET",
  "aLEFTWARDS ARROW THROUGH SUBSETaSUPERSET ABOVE LEFTWARDS ARROWaLEFT FISH TAILaoRIGHTaoUP",
  "aoDOWNaTRIPLE VERTICAL BAR DELIMITERaZ NOTATION SPOTcTYPE COLONaLEFT WHITE CURLY BRACKET",
  "apRIGHTaLEFT WHITE PARENTHESISaoRIGHTaZ NOTATION LEFT IMAGE BRACKETcoRIGHTcnLEFT BINDING",
  "coRIGHTaLEFT SQUARE BRACKET WITH UNDERBARaqRIGHTaLEFT SQUARE BRACKET WITH TICK IN TOP CORNER",
  "anRIGHT SQUARE BRACKET WITH TICK IN BOTTOMatLEFTanRIGHT SQUARE BRACKET WITH TICK IN TOP",
  "aLEFT ANGLE BRACKET WITH DOTaqRIGHTaLEFT ARC LESS-THAN BRACKETanRIGHT ARC GREATER-THAN",
  "apDOUBLE LEFTbnRIGHT ARC LESS-THANanLEFT BLACK TORTOISE SHELLaqRIGHTaDOTTED FENCE",
  "aVERTICAL ZIGZAG LINEaMEASURED ANGLE OPENING LEFTaRIGHT ANGLE VARIANT WITH SQUARE",
  "aMEASURED RIGHT ANGLE WITH DOTaANGLE WITH S INSIDEaACUTE ANGLEaSPHERICAL ANGLE OPENING LEFT",
  "dUPaTURNED ANGLEanREVERSEDaANGLE WITH UNDERBARapREVERSEDaOBLIQUE ANGLE OPENING UPdDOWN",
  "aMEASURED ANGLE WITH OPEN ARM ENDING IN ARROW POINTING UP AND RIGHTlLEFTjDOWN AND RIGHTlLEFT",
  "jRIGHT AND UPjoLEFTjRIGHT AND DOWNjoLEFTaREVERSED EMPTY SETaEMPTY SET WITH OVERBAR",
  "dSMALL CIRCLE ABOVEdnRIGHT ARROWdoLEFTaCIRCLE WITH HORIZONTAL BARanCIRCLED VERTICALbPARALLEL",
  "bREVERSE SOLIDUSbPERPENDICULAR",
  "aCIRCLE DIVIDED BY HORIZONTAL BAR AND TOP HALF DIVIDED BY VERTICAL BARbWITH SUPERIMPOSED X",
  "aCIRCLED ANTICLOCKWISE-ROTATED DIVISION SIGNaUP ARROW THROUGH CIRCLEaCIRCLED WHITE BULLETbn",
  "bLESS-THANbGREATER-THANaCIRCLE WITH SMALL CIRCLE TO THE RIGHTcpTWO HORIZONTAL STROKES",
  "aSQUARED RISING DIAGONAL SLASHboFALLINGbASTERISKbSMALL CIRCLEbSQUAREaTWO JOINED SQUARES",
  "aTRIANGLE WITH DOT ABOVEcUNDERBARaS IN TRIANGLEaTRIANGLE WITH SERIFS AT BOTTOM",
  "aRIGHT TRIANGLE ABOVE LEFT TRIANGLEaLEFT TRIANGLE BESIDE VERTICAL BAR",
  "aVERTICAL BAR BESIDE RIGHT TRIANGLEaBOWTIE WITH LEFT HALF BLACKcoRIGHTaBLACK BOWTIE",
  "aTIMES WITH LEFT HALF BLACKcoRIGHTaWHITE HOURGLASSanBLACKaLEFT WIGGLY FENCEaoRIGHT",
  "aoLEFT DOUBLEapRIGHTaINCOMPLETE INFINITYanTIE OVERaINFINITY NEGATED WITH VERTICAL BAR",
  "aDOUBLE-ENDED MULTIMAPaSQUARE WITH CONTOURED OUTLINEaINCREASES ASaSHUFFLE PRODUCT",
  "aEQUALS SIGN AND SLANTED PARALLELfWITH TILDE ABOVEaIDENTICAL TO AND SLANTED PARALLEL",
  "aGLEICH STARKaTHERMODYNAMICaDOWN-POINTING TRIANGLE WITH LEFT HALF BLACKdoRIGHT",
  "aBLACK DIAMOND WITH DOWN ARROWbLOZENGEaWHITE CIRCLE WITH DOWN ARROWaqBLACK",
  "aERROR-BARRED WHITE SQUAREbnBLACKbWHITE DIAMONDbnBLACKbWHITE CIRCLEbnBLACKaRULE-DELAYED",
  "aREVERSE SOLIDUS OPERATORaSOLIDUS WITH OVERBARaREVERSE SOLIDUS WITH HORIZONTAL STROKE",
  "aBIG SOLIDUSbnREVERSEaDOUBLE PLUSanTRIPLEaLEFT-POINTING CURVED ANGLE BRACKETapRIGHT-POINTING",
  "aTINYaMINYaN-ARY CIRCLED DOT OPERATORcnPLUScnTIMESbUNION OPERATOR WITH DOTePLUS",
  "bSQUARE INTERSECTION OPERATORcnUNIONanTWO LOGICAL ANDcnORanN-ARY TIMESaMODULO TWO SUM",
  "aSUMMATION WITH INTEGRALaQUADRUPLE INTEGRAL OPERATORaFINITE PART INTEGRAL",
  "aINTEGRAL WITH DOUBLE STROKEbAVERAGE WITH SLASHaCIRCULATION FUNCTION",
  "aANTICLOCKWISE INTEGRATIONaLINE INTEGRATION WITH RECTANGULAR PATH AROUND POLEdpSEMICIRCULAR",
  "cnNOT INCLUDING THEaINTEGRAL AROUND A POINT OPERATORanQUATERNION INTEGRAL",
  "aINTEGRAL WITH LEFTWARDS ARROW WITH HOOKcTIMES SIGNcINTERSECTIONcUNIONcOVERBARcUNDERBARaJOIN",
  "aLARGE LEFT TRIANGLE OPERATORaZ NOTATION SCHEMA COMPOSITIONdPIPINGdPROJECTION",
  "aPLUS SIGN WITH SMALL CIRCLE ABOVEdnCIRCUMFLEX ACCENTdnTILDEdDOT BELOWdnTILDEdSUBSCRIPT TWO",
  "dBLACK TRIANGLEaMINUS SIGN WITH COMMA ABOVEdDOT BELOWdFALLING DOTSdnRISING",
  "aPLUS SIGN IN LEFT HALF CIRCLEdoRIGHTaVECTOR OR CROSS PRODUCT",
  "aMULTIPLICATION SIGN WITH DOT ABOVEdUNDERBARaSEMIDIRECT PRODUCT WITH BOTTOM CLOSED",
  "aSMASH PRODUCTaMULTIPLICATION SIGN IN LEFT HALF CIRCLEdoRIGHT",
  "aCIRCLED MULTIPLICATION SIGN WITH CIRCUMFLEX ACCENTaMULTIPLICATION SIGN IN DOUBLE CIRCLE",
  "aCIRCLED DIVISION SIGNaPLUS SIGN IN TRIANGLEapMINUSapMULTIPLICATIONaINTERIOR PRODUCT",
  "aoRIGHTHANDaZ NOTATION RELATIONAL COMPOSITIONaAMALGAMATION OR COPRODUCTaINTERSECTION WITH DOT",
  "aUNION WITH MINUS SIGNcOVERBARaoINTERSECTIONcLOGICAL ANDaUNION WITH LOGICAL OR",
  "bABOVE INTERSECTIONaINTERSECTION ABOVE UNIONaUNION ABOVE BAR ABOVE INTERSECTION",
  "aINTERSECTION ABOVE BAR ABOVE UNIONanUNION BESIDE AND JOINED WITH",
  "aINTERSECTION BESIDE AND JOINED WITH INTERSECTIONaCLOSED UNION WITH SERIFSboINTERSECTION",
  "aDOUBLE SQUARE INTERSECTIONcUNIONaCLOSED UNION WITH SERIFS AND SMASH PRODUCT",
  "aLOGICAL AND WITH DOT ABOVEbpORaDOUBLE LOGICAL ANDcORaTWO INTERSECTING LOGICAL ANDdOR",
  "anSLOPING LARGEcANDanLOGICAL OR OVERLAPPING LOGICALbAND WITH MIDDLE STEMbpOR",
  "bAND WITH HORIZONTAL DASHbpORbAND WITH DOUBLE OVERBARdUNDERBARdnDOUBLEanSMALL VEE WITH",
  "aLOGICAL OR WITH DOUBLE OVERBAReUNDERBARaZ NOTATION DOMAIN ANTIRESTRICTIONcnRANGE",
  "aEQUALS SIGN WITH DOT BELOWaIDENTICAL WITH DOT ABOVE",
  "aTRIPLE HORIZONTAL BAR WITH DOUBLE VERTICAL STROKEeoTRIPLEaTILDE OPERATOR WITH DOT ABOVE",
  "dRISING DOTSaSIMILAR MINUS SIMILARaCONGRUENT WITH DOT ABOVEaEQUALS WITH ASTERISK",
  "aALMOST EQUAL TO WITH CIRCUMFLEX ACCENTaAPPROXIMATELY EQUAL OR EQUAL TO",
  "aEQUALS SIGN ABOVE PLUS SIGNanPLUS SIGN ABOVE EQUALSaEQUALS SIGN ABOVE TILDE OPERATOR",
  "aDOUBLE COLON EQUALaTWO CONSECUTIVE EQUALS SIGNSapTHREE",
  "aEQUALS SIGN WITH TWO DOTS ABOVE AND TWO DOTS BELOWaEQUIVALENT WITH FOUR DOTS ABOVE",
  "aLESS-THAN WITH CIRCLE INSIDEapGREATER-THANaLESS-THAN WITH QUESTION MARK ABOVEaqGREATER-THAN",
  "aLESS-THAN OR SLANTED EQUAL TOaqGREATER-THANaLESS-THAN OR SLANTED EQUAL TO WITH DOT INSIDE",
  "atGREATER-THANaLESS-THAN OR SLANTED EQUAL TO WITH DOT ABOVEatGREATER-THAN",
  "aLESS-THAN OR SLANTED EQUAL TO WITH DOT ABOVE RIGHT",
  "aGREATER-THAN OR SLANTED EQUAL TO WITH DOT ABOVE LEFTaLESS-THAN OR APPROXIMATEaoGREATER-THAN",
  "aLESS-THAN AND SINGLE-LINE NOT EQUAL TOarGREATER-THANaLESS-THAN AND NOT APPROXIMATE",
  "apGREATER-THANaLESS-THAN ABOVE DOUBLE-LINE EQUAL ABOVE GREATER-THAN",
  "aGREATER-THAN ABOVE DOUBLE-LINE EQUAL ABOVE LESS-THANaLESS-THAN ABOVE SIMILAR OR EQUAL",
  "aqGREATER-THANaLESS-THAN ABOVE SIMILAR ABOVE GREATER-THAN",
  "aGREATER-THAN ABOVE SIMILAR ABOVE LESS-THAN",
  "aLESS-THAN ABOVE GREATER-THAN ABOVE DOUBLE-LINE EQUALapGREATER-THAN ABOVE LESS-THAN",
  "anLESS-THAN ABOVE SLANTED EQUAL ABOVE GREATER-THAN ABOVE SLANTED",
  "apGREATER-THAN ABOVE SLANTED EQUAL ABOVE LESS-THANaSLANTED EQUAL TO OR LESS-THANeGREATER-THAN",
  "eLESS-THAN WITH DOT INSIDEepGREATER-THANaDOUBLE-LINE EQUAL TO OR LESS-THANeGREATER-THAN",
  "bSLANTED EQUAL TO OR LESS-THANfGREATER-THANaSIMILAR OR LESS-THANcGREATER-THAN",
  "bABOVE LESS-THAN ABOVE EQUALS SIGNcpGREATER-THANaDOUBLE NESTED LESS-THANcGREATER-THAN",
  "cLESS-THAN WITH UNDERBARaGREATER-THAN OVERLAPPING LESS-THANbnBESIDEaLESS-THAN CLOSED BY CURVE",
  "apGREATER-THANaLESS-THAN CLOSED BY CURVE ABOVE SLANTED EQUALasGREATER-THANaSMALLER THAN",
  "anLARGERaSMALLER THAN OR EQUAL TOaqLARGERaEQUALS SIGN WITH BUMPY ABOVE",
  "aPRECEDES ABOVE SINGLE-LINE EQUALS SIGNaqSUCCEEDSaPRECEDES ABOVE SINGLE-LINE NOT EQUAL TO",
  "arSUCCEEDSaPRECEDES ABOVE EQUALS SIGNapSUCCEEDSaPRECEDES ABOVE NOT EQUAL TOaqSUCCEEDS",
  "aoPRECEDES ABOVE ALMOSTaqSUCCEEDSapPRECEDES ABOVE NOTarSUCCEEDSaDOUBLE PRECEDESbSUCCEEDS",
  "aSUBSET WITH DOTaoSUPERSETaSUBSET WITH PLUS SIGN BELOWaqSUPERSETaoSUBSET WITH MULTIPLICATION",
  "aqSUPERSETaSUBSET OF OR EQUAL TO WITH DOT ABOVEatSUPERSETaSUBSET OF ABOVE EQUALS SIGN",
  "aqSUPERSETaSUBSET OF ABOVE TILDE OPERATORaqSUPERSETaSUBSET OF ABOVE ALMOST EQUAL TOarSUPERSET",
  "aoSUBSET OF ABOVE NOTarSUPERSETaSQUARE LEFT OPEN BOX OPERATORbpRIGHTaCLOSED SUBSETbSUPERSET",
  "bSUBSET OR EQUAL TObpSUPERSETaSUBSET ABOVE SUPERSETaSUPERSET ABOVE SUBSETaoSUBSET",
  "aSUPERSET ABOVE SUPERSETbBESIDE SUBSETcnAND JOINED BY DASH WITHaELEMENT OF OPENING DOWNWARDS",
  "aPITCHFORK WITH TEE TOPaTRANSVERSAL INTERSECTIONaFORKINGaNONFORKINGaSHORT LEFT TACKbnDOWNbnUP",
  "aPERPENDICULAR WITH SaVERTICAL BAR TRIPLE RIGHT TURNSTILEanDOUBLE VERTICAL BAR LEFT",
  "aoVERTICAL BAR DOUBLEarDOUBLEaLONG DASH FROM LEFT MEMBER OF DOUBLE VERTICAL",
  "aSHORT DOWN TACK WITH OVERBARbUP TACK WITH UNDERBARdABOVE SHORT DOWN TACKaoDOUBLEbnUP",
  "bSTROKE NOT SIGNaqREVERSEDaDOES NOT DIVIDE WITH REVERSED NEGATION SLASH",
  "aVERTICAL LINE WITH CIRCLE ABOVEeBELOWapDOWN TACKaPARALLEL WITH HORIZONTAL STROKE",
  "cTILDE OPERATORaTRIPLE VERTICAL BAR BINARY RELATIONdWITH HORIZONTAL STROKEbCOLON OPERATOR",
  "bNESTED LESS-THANcGREATER-THANaDOUBLE-LINE SLANTED LESS-THAN OR EQUAL TOcpGREATER-THAN",
  "aTRIPLE SOLIDUS BINARY RELATIONaLARGE TRIPLE VERTICAL BAR OPERATORanDOUBLE SOLIDUS",
  "aWHITE VERTICAL BARapN-ARYaNORTH EAST WHITE ARROWboWESTaoSOUTH EASTboWESTaoLEFT RIGHT",
  "anLEFTWARDS BLACKaoUPWARDSaoDOWNWARDSaoNORTH EASTboWESTaoSOUTH EASTboWESTaoLEFT RIGHT",
  "aoUP DOWNaRIGHTWARDS ARROW WITH TIP DOWNWARDSeUPWARDSaLEFTWARDS ARROW WITH TIP DOWNWARDS",
  "eUPWARDSaSQUARE WITH TOP HALF BLACKcoBOTTOMcoUPPER RIGHT DIAGONALcpLOWER LEFT",
  "aoDIAMOND WITH LEFTcoRIGHTcoTOPcoBOTTOMaDOTTED SQUAREanBLACK LARGEaoWHITEanBLACK VERY SMALL",
  "apWHITEaBLACK PENTAGONanWHITEbHEXAGONanBLACKaoHORIZONTALaBLACK LARGE CIRCLEbMEDIUM DIAMOND",
  "aoWHITEaBLACK MEDIUM LOZENGEaoWHITEaBLACK SMALL DIAMONDcLOZENGEaoWHITE",
  "aBLACK HORIZONTAL ELLIPSEaoWHITEanBLACK VERTICALaoWHITEaLEFT ARROW WITH SMALL CIRCLE",
  "aTHREE LEFTWARDS ARROWSaLEFT ARROW WITH CIRCLED PLUSaLONG LEFTWARDS SQUIGGLE ARROW",
  "aLEFTWARDS TWO-HEADED ARROW WITH VERTICAL STROKEeoDOUBLEdFROM BARcTRIPLE DASH ARROW",
  "bARROW WITH DOTTED STEMdTAIL WITH VERTICAL STROKEfoDOUBLEbTWO-HEADED ARROW WITH TAIL",
  "fWITH VERTICAL STROKEgoDOUBLEbARROW THROUGH XaWAVE ARROW POINTING DIRECTLY LEFT",
  "aEQUALS SIGN ABOVE LEFTWARDS ARROWapREVERSE TILDE OPERATOR",
  "aLEFTWARDS ARROW ABOVE REVERSE ALMOST EQUAL TOaRIGHTWARDS ARROW THROUGH GREATER-THANdSUPERSET",
  "aLEFTWARDS QUADRUPLE ARROWaoRIGHTWARDSanREVERSE TILDE OPERATOR ABOVE RIGHTWARDS",
  "aRIGHTWARDS ARROW ABOVE REVERSE ALMOST EQUAL TOaTILDE OPERATOR ABOVE LEFTWARDS ARROW",
  "aLEFTWARDS ARROW ABOVE ALMOST EQUAL TOdREVERSE TILDE OPERATORarRIGHTWARDS",
  "aDOWNWARDS TRIANGLE-HEADED ZIGZAG ARROWanSHORT SLANTED NORTHbnBACKSLANTED SOUTH",
  "aWHITE MEDIUM STARanBLACK SMALLaoWHITEaBLACK RIGHT-POINTING PENTAGONaoWHITE",
  "aHEAVY LARGE CIRCLEbOVAL WITH OVAL INSIDEbnCIRCLE WITH CIRCLEcbCIRCLED SALTIRE",
  "aSLANTED NORTH ARROW WITH HOOKED HEADaBACKSLANTED SOUTH ARROW WITH HOOKED TAIL",
  "anSLANTED NORTH ARROW WITH HORIZONTALaqBACKSLANTED SOUTH",
  "aBENT ARROW POINTING DOWNWARDS THEN NORTH EASTatSHORTaLEFTWARDS TRIANGLE-HEADED ARROW",
  "aoUPWARDSaoRIGHTWARDSaoDOWNWARDSaoLEFT RIGHTaoUP DOWNaoNORTH WESTboEASTapSOUTHboWEST",
  "anLEFTWARDS TRIANGLE-HEADED DASHEDapUPWARDSapRIGHTWARDSapDOWNWARDS",
  "anCLOCKWISE TRIANGLE-HEADED OPEN CIRCLEaqANTICLOCKWISEaLEFTWARDS TRIANGLE-HEADED ARROW TO BAR",
  "aqUPWARDSaqRIGHTWARDSaqDOWNWARDS=2B76aqNORTH WESTbqEASTarSOUTHbqWEST",
  "aLEFTWARDS TRIANGLE-HEADED ARROW WITH DOUBLE HORIZONTAL STROKEasUPWARDSasRIGHTWARDS",
  "asDOWNWARDSaHORIZONTAL TAB KEYaoVERTICAL",
  "aLEFTWARDS TRIANGLE-HEADED ARROW OVER RIGHTWARDS TRIANGLE-HEADED ARROW",
  "aoUPWARDS TRIANGLE-HEADED ARROW LEFTWARDS OF DOWNWARDS",
  "aoRIGHTWARDS TRIANGLE-HEADED ARROW OVER LEFTWARDS",
  "aoDOWNWARDS TRIANGLE-HEADED ARROW LEFTWARDS OF UPWARDS",
  "aLEFTWARDS TRIANGLE-HEADED PAIRED ARROWSapUPWARDSapRIGHTWARDSapDOWNWARDS",
  "aLEFTWARDS BLACK CIRCLED WHITE ARROWaqUPWARDSaqRIGHTWARDSaqDOWNWARDS",
  "anANTICLOCKWISE TRIANGLE-HEADED RIGHT U-SHAPEDcoBOTTOMcoLEFTcoTOPaRETURN LEFTbRIGHT",
  "aNEWLINE LEFTbRIGHTaFOUR CORNER ARROWS CIRCLING ANTICLOCKWISEaRIGHTWARDS BLACK ARROW=2B97",
  "aSYMBOL FOR TYPE A ELECTRONICSaTHREE-D TOP-LIGHTED LEFTWARDS EQUILATERAL ARROWHEAD",
  "boRIGHT-LIGHTED UPWARDSboTOP-LIGHTED RIGHTWARDSboLEFT-LIGHTED DOWNWARDSaoBLACK LEFTWARDS",
  "boUPWARDSboRIGHTWARDSboDOWNWARDSaDOWNWARDS TRIANGLE-HEADED ARROW WITH LONG TIP LEFTWARDS",
  "gRIGHTWARDSaUPWARDS TRIANGLE-HEADED ARROW WITH LONG TIP LEFTWARDSgRIGHTWARDS",
  "aLEFTWARDS TRIANGLE-HEADED ARROW WITH LONG TIP UPWARDSasRIGHTWARDS",
  "aLEFTWARDS TRIANGLE-HEADED ARROW WITH LONG TIP DOWNWARDSasRIGHTWARDS",
  "aBLACK CURVED DOWNWARDS AND LEFTWARDS ARROWenRIGHTWARDScnUPWARDS AND LEFTWARDSenRIGHTWARDS",
  "cnLEFTWARDS AND UPWARDScpRIGHTWARDScnLEFTWARDS AND DOWNWARDScpRIGHTWARDS",
  "aRIBBON ARROW DOWN LEFTdRIGHTcUP LEFTdRIGHTcLEFT UPcnRIGHTcLEFT DOWNcnRIGHT",
  "aUPWARDS WHITE ARROW FROM BAR WITH HORIZONTAL BARaUP ARROWHEAD IN A RECTANGLE BOX",
  "aOVERLAPPING WHITE SQUAREScnAND BLACKboaBALLOT BOX WITH LIGHT XanCIRCLEDbnBOLD",
  "aBLACK SQUARE CENTREDbnDIAMONDaTURNED BLACK PENTAGONaHORIZONTAL BLACK OCTAGONao",
  "bMEDIUM UP-POINTING TRIANGLE CENTREDcoDOWN-POINTINGcoLEFT-POINTINGcoRIGHT-POINTING",
  "aNEPTUNE FORM TWOaTOP HALF BLACK CIRCLEapBOTTOMaLIGHT FOUR POINTED BLACK CUSParROTATED",
  "anWHITE FOUR POINTEDaqROTATEDaSQUARE POSITION INDICATORaUNCERTAINTY SIGNaGROUP MARK",
  "aPLUTO FORM TWOcTHREEcFOURcFIVEaTRANSPLUTOaPROSERPINAaASTRAEAaHYGIEAaPHOLUSaNESSUS",
  "aWHITE MOON SELENAaBLACK DIAMOND ON CROSSaTRUE LIGHT MOON ARTAaCUPIDOaHADESaZEUSaKRONOS",
  "aAPOLLONaADMETOSaVULCANUSaPOSEIDONaLEFT HALF BLACK STARapRIGHTaSTAR WITH LEFT HALF BLACK",
  "coRIGHTaLEFTWARDS TWO-HEADED ARROW WITH TRIANGLE ARROWHEADSarUPWARDSarRIGHTWARDSarDOWNWARDS",
  "aERIS FORM ONEcTWOaSEDNAaRUSSIAN ASTROLOGICAL SYMBOL VIGINTILEdNOVILEdQUINTILEdBINOVILE",
  "dSENTAGONdTREDECILEaEQUALS SIGN WITH INFINITY BELOWaUNITED SYMBOLanSEPARATEDanDOUBLEDanPASSED",
  "aREVERSED RIGHT ANGLEaHELLSCHREIBER PAUSE SYMBOL"
]

end ApiRouter.Text.Name
