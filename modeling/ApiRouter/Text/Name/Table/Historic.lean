set_option autoImplicit false

/-! # Names of characters

The scripts of the ancient Mediterranean and Near East, and historic scripts of India and its
neighbours. -/

namespace ApiRouter.Text.Name

/-- The names of the characters from 10000 to 10FF6. -/
def ancient : List String := [
  "=10000aLINEAR B SYLLABLE B008 AdB038 EdB028 IdB061 OdB010 UdB001 DAdB045 DEdB007 DIdB014 DO",
  "dB051 DUdB057 JAdB046 JE=1000DdB036 JOdB065 JUdB077 KAdB044 KEdB067 KIdB070 KOdB081 KU",
  "dB080 MAdB013 MEdB073 MIdB015 MOdB023 MUdB006 NAdB024 NEdB030 NIdB052 NOdB055 NUdB003 PA",
  "dB072 PEdB039 PIdB011 POdB050 PUdB016 QAdB078 QEdB021 QIdB032 QO=10028dB060 RAdB027 RE",
  "dB053 RIdB002 ROdB026 RUdB031 SAdB009 SEdB041 SIdB012 SOdB058 SUdB059 TAdB004 TEdB037 TI",
  "dB005 TOdB069 TUdB054 WAdB075 WEdB040 WIdB042 WO=1003CdB017 ZAdB074 ZE=1003FdB020 ZOdB025 A2",
  "dB043 A3dB085 AUdB071 DWEdB090 DWOdB048 NWAdB029 PU2dB062 PTEdB076 RA2dB033 RA3dB068 RO2",
  "dB066 TA2dB087 TWEdB091 TWO=10050cSYMBOL B018+1dB022dB034dB047dB049dB056dB063+1dB079dB082+1",
  "dB086dB089=10080cIDEOGRAM B100 MANdB102 WOMANdB104 DEERdB105 EQUIDdB105F MAREdB105M STALLION",
  "dB106F EWEdB106M RAMdB107F SHE-GOATdB107M HE-GOATdB108F SOWdB108M BOARdB109F COWdB109M BULL",
  "dB120 WHEATdB121 BARLEYdB122 OLIVEdB123 SPICEdB125 CYPERUScMONOGRAM B127 KAPOdB128 KANAKO",
  "cIDEOGRAM B130 OILdB131 WINEdB132cMONOGRAM B133 AREPAdB135 MERIcIDEOGRAM B140 BRONZE",
  "dB141 GOLDdB142dB145 WOOLdB146dB150dB151 HORNdB152+2cMONOGRAM B156 TURO2cIDEOGRAM B157+1",
  "dB159 CLOTHdB160+1dB162 GARMENTdB163 ARMOURdB164+8dB173 MONTHdB174dB176 TREEdB177+8dB189+1",
  "dB191 HELMETdB220 FOOTSTOOLdB225 BATHTUBdB230 SPEARdB231 ARROWdB232dB233 SWORDdB234dB236",
  "dB240 WHEELED CHARIOTdnB241dB242 CHARIOT FRAMEdB243 WHEELdB245+1cMONOGRAM B247 DIPTE",
  "cIDEOGRAM B248+1dB251+2dB254 DARTdB255+4dVESSEL B155eB200+19eB221+1eB226+3eB250eB305=10100",
  "aAEGEAN WORD SEPARATOR LINEdDOTbCHECK MARK=10107bNUMBER ONEcTWOcTHREEcFOURcFIVEcSIXcSEVEN",
  "cEIGHTcNINEcTENcTWENTYcTHIRTYcFORTYcFIFTYcSIXTYcSEVENTYcEIGHTYcNINETYcONE HUNDREDcnTWOcnTHREE",
  "cnFOURcnFIVEcnSIXcnSEVENcnEIGHTcnNINEcONE THOUSANDcnTWOcnTHREEcnFOURcnFIVEcnSIXcnSEVENcnEIGHT",
  "cnNINEcnTENcnTWENTYcnTHIRTYcnFORTYcnFIFTYcnSIXTYcnSEVENTYcnEIGHTYcnNINETY=10137",
  "bWEIGHT BASE UNITcFIRST SUBUNITcnSECONDcnTHIRDcnFOURTHbnDRY MEASURE FIRSTbpLIQUID",
  "bnMEASURE SECONDcnTHIRDaGREEK ACROPHONIC ATTIC ONE QUARTEReHALFeDRACHMAdFIVEdFIFTY",
  "dFIVE HUNDREDeTHOUSANDdnFIFTYdFIVE TALENTSdnTENdnFIFTYdnONE HUNDREDdoFIVEdnONE THOUSANDdoFIVE",
  "eSTATERSdnTENdnFIFTYdnONE HUNDREDdoFIVEdnONE THOUSANDdoTENdoFIFTYdTEN MNAS",
  "cHERAEUM ONE PLETHRONcTHESPIAN ONEcnHERMIONIANcEPIDAUREAN TWOcnTHESPIANcCYRENAIC TWO DRACHMAS",
  "coEPIDAUREANcTROEZENIAN FIVEdTENeALTERNATE FORMcHERMIONIAN TENcnMESSENIANcnTHESPIANdTHIRTY",
  "cTROEZENIAN FIFTYeALTERNATE FORMcHERMIONIAN FIFTYcnTHESPIANdONE HUNDREDdnTHREE",
  "cnEPIDAUREAN FIVEcoTROEZENIANcoTHESPIANcoCARYSTIANcoNAXIANcTHESPIAN ONE THOUSANDdnFIVE",
  "cDELPHIC FIVE MNAScnSTRATIAN FIFTYbONE HALF SIGNeALTERNATE FORMbTWO THIRDS SIGN",
  "bnTHREE QUARTERSbnYEARbnTALENTbnDRACHMAbnOBOLbnTWO OBOLSboTHREEboFOURboFIVEbnMETRETES",
  "bnKYATHOS BASEbnLITRAbnOUNKIAbnXESTESbnARTABEbnAROURAbnGRAMMAbnTRYBLION BASEbnZERO",
  "bnONE QUARTERbnSINUSOIDbnINDICTIONanNOMISMA=10190anROMAN SEXTANSbnUNCIAbnSEMUNCIAbnSEXTULA",
  "boDIMIDIAbnSILIQUAbnDENARIUSbnQUINARIUSbnSESTERTIUSbnDUPONDIUSbnASbnCENTURIALaASCIA SYMBOL",
  "=101A0aGREEK SYMBOL TAU RHO=101D0aPHAISTOS DISC SIGN PEDESTRIANdPLUMED HEADdnTATTOOEDdCAPTIVE",
  "dCHILDdWOMANdHELMETdGAUNTLETdTIARAdARROWdBOWdSHIELDdCLUBdMANACLESdMATTOCKdSAWdLIDdBOOMERANG",
  "dCARPENTRY PLANEdDOLIUMdCOMBdSLINGdCOLUMNdBEEHIVEdSHIPdHORNdHIDEdBULLS LEGdCATdRAMdEAGLEdDOVE",
  "dTUNNYdBEEdPLANE TREEdVINEdPAPYRUSdROSETTEdLILYdOX BACKdFLUTEdGRATERdSTRAINERdSMALL AXE",
  "dWAVY BANDdCOMBINING OBLIQUE STROKE=10280aLYCIAN LETTER AcEcBcBHcGcDcIcWcZcTHcJcKcQcLcMcNcMM",
  "cNNcUcPcKKcRcScTcTTcANcENcHcX=102A0aCARIAN LETTER AcP2cDcLcUUUcRcLDcA2cQcBcMcOcD2cTcSHcSH2cS",
  "cC-18cUcNNcXcNcTT2cPcSScIcEcUUUUcKcK2cNDcUUcGcG2cSTcST2cNGcIIcC-39cTTcUUU2cRRcMBcMB2+2cLD2cE2",
  "cUUU3=102E0aCOPTIC EPACT THOUSANDS MARKcDIGIT ONEdTWOdTHREEdFOURdFIVEdSIXdSEVENdEIGHTdNINE",
  "cNUMBER TENdTWENTYdTHIRTYdFORTYdFIFTYdSIXTYdSEVENTYdEIGHTYdNINETYdONE HUNDREDdnTWOdnTHREE",
  "dnFOURdnFIVEdnSIXdnSEVENdnEIGHTdnNINE=10300aOLD ITALIC LETTER AdBEdKEdDEdEdVEdZEdHEdTHEdIdKA",
  "dELdEMdENdESHdOdPEdSHEdKUdERdESdTEdUdEKSdPHEdKHEdEFdERSdCHEdIIdUUdESScNUMERAL ONEdFIVEdTEN",
  "dFIFTY=1032DcLETTER YEdNORTHERN TSEdnSOUTHERNaGOTHIC LETTER AHSAcBAIRKANcGIBAcDAGScAIHVUS",
  "cQAIRTHRAcIUJAcHAGLcTHIUTHcEIScKUSMAcLAGUScMANNAcNAUTHScJERcURUScPAIRTHRAcNINETYcRAIDAcSAUIL",
  "cTEIWScWINJAcFAIHUcIGGWScHWAIRcOTHALcNINE HUNDRED=10350aOLD PERMIC LETTER ANdBURdGAIdDOIdE",
  "dZHOIdDZHOIdZATAdDZITAdIdKOKEdLEIdMENOEdNENOEdVOOIdPEEIdREIdSIIdTAIdUdCHERYdSHOOIdSHCHOOIdYRY",
  "dYERUdOdOOdEFdHAdTSIUdVERdYERdYERIdYATdIEdYUdYAdIAaCOMBINING OLD PERMIC LETTER ANeDOIeZATA",
  "eNENOEeSII=10380aUGARITIC LETTER ALPAcBETAcGAMLAcKHAcDELTAcHOcWOcZETAcHOTAcTETcYODcKAFcSHIN",
  "cLAMDAcMEMcDHALcNUNcZUcSAMKAcAINcPUcSADEcQOPAcRASHAcTHANNAcGHAINcTOcIcUcSSU=1039F",
  "bWORD DIVIDERaOLD PERSIAN SIGN AdIdUdKAdKUdGAdGUdXAdCAdJAdJIdTAdTUdDAdDIdDUdTHAdPAdBAdFAdNA",
  "dNUdMAdMIdMUdYAdVAdVIdRAdRUdLAdSAdZAdSHAdSSAdHA=103C8dAURAMAZDAAdAURAMAZDAA-2dAURAMAZDAAHA",
  "dXSHAAYATHIYAdDAHYAAUSHdDAHYAAUSH-2dBAGAdBUUMISHcWORD DIVIDERcNUMBER ONEdTWOdTENdTWENTY",
  "dHUNDRED=10400aDESERET CAPITAL LETTER LONG IeEeAeAHeOeOOdSHORT IeEeAeAHeOeOOdAYdOWdWUdYEEdH",
  "dPEEdBEEdTEEdDEEdCHEEdJEEdKAYdGAYdEFdVEEdETHdTHEEdESdZEEdESHdZHEEdERdELdEMdENdENGdOIdEW",
  "bSMALL LETTER LONG IeEeAeAHeOeOOdSHORT IeEeAeAHeOeOOdAYdOWdWUdYEEdHdPEEdBEEdTEEdDEEdCHEEdJEE",
  "dKAYdGAYdEFdVEEdETHdTHEEdESdZEEdESHdZHEEdERdELdEMdENdENGdOIdEWaSHAVIAN LETTER PEEPcTOTcKICK",
  "cFEEcTHIGHcSOcSUREcCHURCHcYEAcHUNGcBIBcDEADcGAGcVOWcTHEYcZOOcMEASUREcJUDGEcWOEcHA-HAcLOLL",
  "cMIMEcIFcEGGcASHcADOcONcWOOLcOUTcAHcROARcNUNcEATcAGEcICEcUPcOAKcOOZEcOILcAWEcAREcORcAIRcERR",
  "cARRAYcEARcIANcYEWaOSMANYA LETTER ALEFcBAcTAcJAcXAcKHAcDEELcRAcSAcSHIINcDHAcCAYNcGAcFAcQAAF",
  "cKAAFcLAANcMIINcNUUNcWAWcHAcYAcAcEcIcOcUcAAcEEcOO=104A0bDIGIT ZEROcONEcTWOcTHREEcFOURcFIVE",
  "cSIXcSEVENcEIGHTcNINE=104B0aOSAGE CAPITAL LETTER AdAIdAINdAHdBRAdCHAdEHCHAdEdEINdHAdHYAdIdKA",
  "dEHKAdKYAdLAdMAdNAdOdOINdPAdEHPAdSAdSHAdTAdEHTAdTSAdEHTSAdTSHAdDHAdUdWAdKHAdGHAdZAdZHA=104D8",
  "bSMALL LETTER AdAIdAINdAHdBRAdCHAdEHCHAdEdEINdHAdHYAdIdKAdEHKAdKYAdLAdMAdNAdOdOINdPAdEHPAdSA",
  "dSHAdTAdEHTAdTSAdEHTSAdTSHAdDHAdUdWAdKHAdGHAdZAdZHA=10500aELBASAN LETTER AcBEcCEcCHEcDEcNDE",
  "cDHEcEIcEcFEcGEcGJEcHEcIcJEcKEcLEcLLEcMEcNEcNAcNJEcOcPEcQEcREcRREcSEcSHEcTEcTHEcUcVEcXEcYcZE",
  "cZHEcGHEcGHAMMAcKHE=10530aCAUCASIAN ALBANIAN LETTER ALTdBETdGIMdDATdEBdZARLdEYNdZHILdTASdCHA",
  "dYOWDdZHAdIRBdSHAdLANdINYAdXEYNdDYANdCARdJHOXdKARdLYITdHEYTdQAYdAORdCHOYdCHIdCYAYdMAQdQAR",
  "dNOWCdDZYAYdSHAKdJAYNdONdTYAYdFAMdDZAYdCHATdPENdGHEYSdRATdSEYKdVEYZdTIWRdSHOYdIWNdCYAWdCAYN",
  "dYAYDdPIWRdKIW=1056FcCITATION MARKaVITHKUQI CAPITAL LETTER AdBBEdBEdCEdCHEdDEdDHEdEIdEdFEdGA",
  "=1057CdHAdHHAdIdIJEdJEdKAdLAdLLAdMEdNEdNJEdOdPEdQAdRE=1058CdSEdSHEdTEdTHEdUdVEdXE=10594dYdZE",
  "=10597bSMALL LETTER AdBBEdBEdCEdCHEdDEdDHEdEIdEdFEdGA=105A3dHAdHHAdIdIJEdJEdKAdLAdLLAdMEdNE",
  "dNJEdOdPEdQAdRE=105B3dSEdSHEdTEdTHEdUdVEdXE=105BBdYdZE=10600aLINEAR A SIGN AB001+10dAB013",
  "dAB016+1dAB020+1dAB021FdAB021MdAB022dAB022FdAB022MdAB023dAB023MdAB024dAB026+2dA028BdAB029+2",
  "dAB034dAB037+4dAB044+7dAB053+8dAB065+2dAB069+1dAB073+1dAB076+6dAB085+2dA100-102dAB118dAB120",
  "dA120BdAB122+1dAB131AdAB131BdA131CdAB164dAB171dAB180dAB188dAB191dA301+7dA309AdA309BdA309C",
  "dA310+2dA313AdA313BdA313CdA314+57dA400-VASdA401-VASdA402-VASdA403-VASdA404-VASdA405-VAS",
  "dA406-VASdA407-VASdA408-VASdA409-VASdA410-VASdA411-VASdA412-VASdA413-VASdA414-VASdA415-VAS",
  "dA416-VASdA417-VASdA418-VASdA501+5dA508+5dA515+1dA520+1dA523+9dA534+8dA545dA547+10dA559dA563",
  "+3dA568+21dA591+1dA594+2dA598dA600+4dA606dA608+16dA626+3dA634dA637+1dA640dA642+4dA648+1dA651",
  "+13=10740dA701 AdA702 BdA703 DdA704 EdA705 FdA706 HdA707 JdA708 KdA709 LdA709-2 L2dA709-3 L3",
  "dA709-4 L4dA709-6 L6dA710 WdA711 XdA712 YdA713 OMEGAdA714 ABBdA715 BBdA717 DDdA726 EYYY",
  "dA732 JE=10760dA800+7=10780aMODIFIER LETTER SMALL CAPITAL AAcSUPERSCRIPT TRIANGULAR COLON",
  "doHALFcSMALL AEdCAPITAL BdB WITH HOOK=10787dDZ DIGRAPHfWITH RETROFLEX HOOKgCURLdDEZH DIGRAPH",
  "dD WITH TAILfHOOKgAND TAILdREVERSED EdnCLOSED REVERSED OPENdFENG DIGRAPHdRAMS HORNdCAPITAL G",
  "dG WITH HOOKdpCAPITALdH WITH STROKEdCAPITAL HdHENG WITH HOOKdnDOTLESS J WITH STROKE AND",
  "dLS DIGRAPHdnLZdL WITH BELTdpCAPITALdnL WITH RETROFLEX HOOK ANDdLEZHeWITH RETROFLEX HOOK",
  "dTURNED YfWITH BELTdO WITH STROKEdCAPITAL OEdCLOSED OMEGAdQdTURNED R WITH LONG LEG",
  "iAND RETROFLEX HOOKdR WITH TAILfFISHHOOKdCAPITAL RdTC DIGRAPH WITH CURLdTS DIGRAPH",
  "fWITH RETROFLEX HOOKdTESH DIGRAPHdT WITH RETROFLEX HOOKdnV WITH RIGHT=107B2dCAPITAL Y",
  "cGLOTTAL STOP WITH STROKEcqREVERSEDcBILABIAL CLICKcnDENTALcnLATERALcnALVEOLAR",
  "cRETROFLEX CLICK WITH RETROFLEX HOOKcSMALL S WITH CURL=10800aCYPRIOT SYLLABLE AcEcIcOcUcJA",
  "=10808cJO=1080AcKAcKEcKIcKOcKUcLAcLEcLIcLOcLUcMAcMEcMIcMOcMUcNAcNEcNIcNOcNUcPAcPEcPIcPOcPUcRA",
  "cREcRIcROcRUcSAcSEcSIcSOcSUcTAcTEcTIcTOcTUcWAcWEcWIcWO=10837cXAcXE=1083CcZA=1083FcZO",
  "aIMPERIAL ARAMAIC LETTER ALEPHdBETHdGIMELdDALETHdHEdWAWdZAYINdHETHdTETHdYODHdKAPHdLAMEDHdMEM",
  "dNUNdSAMEKHdAYINdPEdSADHEdQOPHdRESHdSHINdTAW=10857cSECTION SIGNcNUMBER ONEdTWOdTHREEdTEN",
  "dTWENTYdONE HUNDREDeTHOUSANDdnTENaPALMYRENE LETTER ALEPHcBETHcGIMELcDALETHcHEcWAWcZAYINcHETH",
  "cTETHcYODHcKAPHcLAMEDHcMEMcFINAL NUNcncSAMEKHcAYINcPEcSADHEcQOPHcRESHcSHINcTAW",
  "bLEFT-POINTING FLEURONbnRIGHT-POINTINGbNUMBER ONEcTWOcTHREEcFOURcFIVEcTENcTWENTY",
  "aNABATAEAN LETTER FINAL ALEPHcncFINAL BETHcncGIMELcDALETHcFINAL HEcncWAWcZAYINcHETHcTETH",
  "cFINAL YODHcncFINAL KAPHcncFINAL LAMEDHcncFINAL MEMcncFINAL NUNcncSAMEKHcAYINcPEcSADHEcQOPH",
  "cRESHcFINAL SHINcncTAW=108A7bNUMBER ONEcTWOcTHREEcFOURboCRUCIFORMbNUMBER FIVEcTENcTWENTY",
  "cONE HUNDRED=108E0aHATRAN LETTER ALEPHcBETHcGIMELcDALETH-RESHcHEcWAWcZAYNcHETHcTETHcYODHcKAPH",
  "cLAMEDHcMEMcNUNcSAMEKHcAYNcPEcSADHEcQOPH=108F4cSHINcTAW=108FBbNUMBER ONEcFIVEcTENcTWENTY",
  "cONE HUNDREDaPHOENICIAN LETTER ALFcBETcGAMLcDELTcHEcWAUcZAIcHETcTETcYODcKAFcLAMDcMEMcNUNcSEMK",
  "cAINcPEcSADEcQOFcROSHcSHINcTAUbNUMBER ONEcTENcTWENTYcONE HUNDREDcTWOcTHREE=1091F",
  "bWORD SEPARATORaLYDIAN LETTER AcBcGcDcEcVcIcYcKcLcMcNcOcRcSScTcUcFcQcScTTcANcENcLYcNNcC=1093F",
  "bTRIANGULAR MARK=10980aMEROITIC HIEROGLYPHIC LETTER AdEdIdOdYAdWAdBAdBA-2dPAdMAdNAdNA-2dNE",
  "dNE-2dRAdRA-2dLAdKHAdHHAdSAdSA-2dSEdKAdQAdTAdTA-2dTEdTE-2dTOdDAcSYMBOL VIDJdVIDJ-2",
  "bCURSIVE LETTER AdEdIdOdYAdWAdBAdPAdMAdNAdNEdRAdLAdKHAdHHAdSAdnARCHAICdSEdKAdQAdTAdTEdTOdDA",
  "=109BCcFRACTION ELEVEN TWELFTHSdONE HALFcLOGOGRAM RMTdIMNcNUMBER ONEdTWOdTHREEdFOURdFIVEdSIX",
  "dSEVENdEIGHTdNINEdTENdTWENTYdTHIRTYdFORTYdFIFTYdSIXTYdSEVENTY=109D2dONE HUNDREDdnTWOdnTHREE",
  "dnFOURdnFIVEdnSIXdnSEVENdnEIGHTdnNINEdONE THOUSANDdnTWOdnTHREEdnFOURdnFIVEdnSIXdnSEVENdnEIGHT",
  "dnNINEdnTENdnTWENTYdnTHIRTYdnFORTYdnFIFTYdnSIXTYdnSEVENTYdnEIGHTYdnNINETYdnONE HUNDREDdoTWO",
  "doTHREEdoFOURdoFIVEdoSIXdoSEVENdoEIGHTdoNINEcFRACTION ONE TWELFTHdTWO TWELFTHSdnTHREEdnFOUR",
  "dnFIVEdnSIXdnSEVENdnEIGHTdnNINEdnTENaKHAROSHTHI LETTER AbVOWEL SIGN IdUdVOCALIC R=10A05dEdO",
  "=10A0CcLENGTH MARKbSIGN DOUBLE RING BELOWcANUSVARAcVISARGAbLETTER KAcKHAcGAcGHA=10A15cCAcCHA",
  "cJA=10A19cNYAcTTAcTTHAcDDAcDDHAcNNAcTAcTHAcDAcDHAcNAcPAcPHAcBAcBHAcMAcYAcRAcLAcVAcSHAcSSAcSA",
  "cZAcHAcKKAcTTTHAcTTTAcVHA=10A38bSIGN BAR ABOVEcCAUDAcDOT BELOW=10A3FbVIRAMAbDIGIT ONEcTWO",
  "cTHREEcFOURbNUMBER TENcTWENTYcONE HUNDREDdTHOUSANDbFRACTION ONE HALF=10A50bPUNCTUATION DOT",
  "cSMALL CIRCLEcncCRESCENT BARcMANGALAMcLOTUScDANDAcnDOUBLEcLINES=10A60",
  "aOLD SOUTH ARABIAN LETTER HEeLAMEDHeHETHeMEMeQOPHeWAWeSHINeRESHeBETHeTAWeSATeKAPHeNUNeKHETH",
  "eSADHEeSAMEKHeFEeALEFeAYNeDHADHEeGIMELeDALETHeGHAYNeTETHeZAYNeDHALETHeYODHeTHAWeTHETH",
  "dNUMBER ONEeFIFTYdNUMERIC INDICATORbNORTH ARABIAN LETTER HEHeLAMeHAHeMEEMeQAFeWAWeES-2eREH",
  "eBEHeTEHeES-1eKAFeNOONeKHAHeSADeES-3eFEHeALEFeAINeDADeGEEMeDALeGHAINeTAHeZAINeTHALeYEHeTHEH",
  "eZAHdNUMBER ONEeTENeTWENTY=10AC0aMANICHAEAN LETTER ALEPHcBETHcBHETHcGIMELcGHIMELcDALETHcHE",
  "cWAWbSIGN UDbLETTER ZAYINcZHAYINcJAYINcJHAYINcHETHcTETHcYODHcKAPHcXAPHcKHAPHcLAMEDHcDHAMEDH",
  "cTHAMEDHcMEMcNUNcSAMEKHcAYINcAAYINcPEcFEcSADHEcQOPHcXOPHcQHOPHcRESHcSHINcSSHINcTAW",
  "bABBREVIATION MARK ABOVEdBELOW=10AEBbNUMBER ONEcFIVEcTENcTWENTYcONE HUNDREDbPUNCTUATION STAR",
  "cFLEURONcDOUBLE DOT WITHIN DOTcpdcTWO DOTScLINE FILLER=10B00aAVESTAN LETTER AcAAcAOcAAOcAN",
  "cAANcAEcAEEcEcEEcOcOOcIcIIcUcUUcKEcXEcXYEcXVEcGEcGGEcGHEcCEcJEcTEcTHEcDEcDHEcTTEcPEcFEcBEcBHE",
  "cNGEcNGYEcNGVEcNEcNYEcNNEcMEcHMEcYYEcYEcVEcREcLEcSEcZEcSHEcZHEcSHYEcSSHEcHE=10B39",
  "bABBREVIATION MARKaTINY TWO DOTS OVER ONE DOT PUNCTUATIONasSMALLasLARGE",
  "bnONE DOT OVER TWO DOTSbnTWO RINGS OVER ONE RINGbnONE RING OVER TWO RINGS",
  "aINSCRIPTIONAL PARTHIAN LETTER ALEPHdBETHdGIMELdDALETHdHEdWAWdZAYINdHETHdTETHdYODHdKAPH",
  "dLAMEDHdMEMdNUNdSAMEKHdAYINdPEdSADHEdQOPHdRESHdSHINdTAW=10B58cNUMBER ONEdTWOdTHREEdFOURdTEN",
  "dTWENTYdONE HUNDREDeTHOUSANDbPAHLAVI LETTER ALEPHdBETHdGIMELdDALETHdHEdWAW-AYIN-RESHdZAYIN",
  "dHETHdTETHdYODHdKAPHdLAMEDHdMEM-QOPHdNUNdSAMEKHdPEdSADHEdSHINdTAW=10B78cNUMBER ONEdTWOdTHREE",
  "dFOURdTENdTWENTYdONE HUNDREDeTHOUSANDaPSALTER PAHLAVI LETTER ALEPHdBETHdGIMELdDALETHdHE",
  "dWAW-AYIN-RESHdZAYINdHETHdYODHdKAPHdLAMEDHdMEM-QOPHdNUNdSAMEKHdPEdSADHEdSHINdTAW=10B99",
  "cSECTION MARKcoTURNEDcFOUR DOTS WITH CROSSfDOT=10BA9cNUMBER ONEdTWOdTHREEdFOURdTENdTWENTY",
  "dONE HUNDRED=10C00aOLD TURKIC LETTER ORKHON AdnYENISEIeAEdORKHON IdnYENISEIeEdORKHON OeOE",
  "dnYENISEIdORKHON ABdnYENISEIdORKHON AEBdnYENISEIdORKHON AGdnYENISEIdORKHON AEGdnYENISEI",
  "dORKHON ADdnYENISEIdORKHON AEDeEZdnYENISEIdORKHON AYdnYENISEIdORKHON AEYdnYENISEIdORKHON AEK",
  "dnYENISEIdORKHON OEKdnYENISEIdORKHON ALdnYENISEIdORKHON AELeELTeEMeANeAENdnYENISEIdORKHON ENT",
  "dnYENISEIdORKHON ENCdnYENISEIdORKHON ENYdnYENISEIeANGdORKHON ENGdYENISEI AENGdORKHON EPeOPeIC",
  "eECdnYENISEIdORKHON AQdnYENISEIdORKHON IQdnYENISEIdORKHON OQdnYENISEIdORKHON ARdnYENISEI",
  "dORKHON AEReASeAESeASHdnYENISEIdORKHON ESHdnYENISEIdORKHON ATdnYENISEIdORKHON AETdnYENISEI",
  "dORKHON OTeBASH=10C80bHUNGARIAN CAPITAL LETTER AeAAeEBeAMBeECeENCeECSeEDeANDeEenCLOSEeEEeEF",
  "eEGeEGYeEHeIeIIeEJeEKeAKeUNKeELeELYeEMeENeENYeOeOOeNIKOLSBURG OEenRUDIMENTAeOEEeEPeEMPeER",
  "enSHORTeESeESZeETeENTeETYeECHeUeUUeNIKOLSBURG UEenRUDIMENTAeEVeEZeEZSeENT-SHAPED SIGNeUS",
  "=10CC0cSMALL LETTER AeAAeEBeAMBeECeENCeECSeEDeANDeEenCLOSEeEEeEFeEGeEGYeEHeIeIIeEJeEKeAKeUNK",
  "eELeELYeEMeENeENYeOeOOeNIKOLSBURG OEenRUDIMENTAeOEEeEPeEMPeERenSHORTeESeESZeETeENTeETYeECHeU",
  "eUUeNIKOLSBURG UEenRUDIMENTAeEVeEZeEZSeENT-SHAPED SIGNeUS=10CFAcNUMBER ONEdFIVEdTENdFIFTY",
  "dONE HUNDREDeTHOUSANDaHANIFI ROHINGYA LETTER AdBAdPAdTAdTTAdJAdCAdHAdKHAdFAdDAdDDAdRAdRRAdZA",
  "dSAdSHAdKAdGAdLAdMAdNAdWAdnKINNAdYAdnKINNAdNGAdNYAdVAcVOWEL AdIdUdEdOcMARK SAKINdNA KHONNA",
  "cSIGN HARBAHAYdTAHALAdTANAdTASSI=10D30cDIGIT ZEROdONEdTWOdTHREEdFOURdFIVEdSIXdSEVENdEIGHT",
  "dNINE=10E60aRUMI DIGIT ONEcTWOcTHREEcFOURcFIVEcSIXcSEVENcEIGHTcNINEbNUMBER TENcTWENTYcTHIRTY",
  "cFORTYcFIFTYcSIXTYcSEVENTYcEIGHTYcNINETYcONE HUNDREDcnTWOcnTHREEcnFOURcnFIVEcnSIXcnSEVEN",
  "cnEIGHTcnNINEbFRACTION ONE HALFdQUARTERdTHIRDcTWO THIRDS=10E80aYEZIDI LETTER ELIFcBEcPEcPHE",
  "cTHEcSEcCIMcCHIMcCHHIMcHHAcXAcDALcZALcRAcRHAcZAcJAcSINcSHINcSADcDADcTAcZEcEYNcXHEYNcFAcVA",
  "dALTERNATE FORMcQAFcKAFcKHAFcGAFcLAMcMIMcNUNcUMcWAWcOWcEWcHAYcYOTcET=10EAB",
  "bCOMBINING HAMZA MARKcnMADDAbnHYPHENATION=10EB0bLETTER LAM WITH DOT ABOVE",
  "cnYOT WITH CIRCUMFLEX=10F00aOLD SOGDIAN LETTER ALEPHdnFINALdBETHdnFINALdGIMELdHEdnFINALdWAW",
  "dZAYINdHETHdYODHdKAPHdLAMEDHdMEMdNUNdnFINALfWITH VERTICAL TAILdSAMEKHdAYINdnALTERNATEdPE",
  "dSADHEdnFINALfWITH VERTICAL TAILdRESH-AYIN-DALETHdSHINdTAWdnFINALfWITH VERTICAL TAIL",
  "cNUMBER ONEdTWOdTHREEdFOURdFIVEdTENdTWENTYdTHIRTYdONE HUNDREDcFRACTION ONE HALF",
  "cLIGATURE AYIN-DALETH=10F30aSOGDIAN LETTER ALEPHcBETHcGIMELcHEcWAWcZAYINcHETHcYODHcKAPH",
  "cLAMEDHcMEMcNUNcSAMEKHcAYINcPEcSADHEcRESH-AYINcSHINcTAWcFETHcLESHbINDEPENDENT SHIN",
  "bCOMBINING DOT BELOWcnTWO DOTScDOT ABOVEcnTWO DOTScnCURVEdBELOWcHOOK ABOVEdBELOWcoLONGcnRESH",
  "cnSTROKEbNUMBER ONEcTENcTWENTYcONE HUNDREDbPUNCTUATION TWO VERTICAL BARSfWITH DOTS",
  "cCIRCLE WITH DOTcTWO CIRCLES WITH DOTScHALF CIRCLE WITH DOT=10F70aOLD UYGHUR LETTER ALEPH",
  "dBETHdGIMEL-HETHdWAWdZAYINdFINAL HETHdYODHdKAPHdLAMEDHdMEMdNUNdSAMEKHdPEdSADHEdRESHdSHINdTAW",
  "dLESHcCOMBINING DOT ABOVEeBELOWdTWO DOTS ABOVEfBELOWcPUNCTUATION BARdTWO BARSeDOTSdnFOUR",
  "=10FB0aCHORASMIAN LETTER ALEPHcnSMALLcBETHcGIMELcDALETHcHEcWAWcnCURLEDcZAYINcHETHcYODHcKAPH",
  "cLAMEDHcMEMcNUNcSAMEKHcAYINcPEcRESHcSHINcTAWbNUMBER ONEcTWOcTHREEcFOURcTENcTWENTYcONE HUNDRED",
  "=10FE0aELYMAIC LETTER ALEPHcBETHcGIMELcDALETHcHEcWAWcZAYINcHETHcTETHcYODHcKAPHcLAMEDHcMEMcNUN",
  "cSAMEKHcAYINcPEcSADHEcQOPHcRESHcSHINcTAWbLIGATURE ZAYIN-YODH"
]

/-- The names of the characters from 11000 to 11FFF. -/
def historic : List String := [
  "=11000aBRAHMI SIGN CANDRABINDUcANUSVARAcVISARGAcJIHVAMULIYAcUPADHMANIYAbLETTER AcAAcIcIIcUcUU",
  "cVOCALIC RdRRdLdLLcEcAIcOcAUcKAcKHAcGAcGHAcNGAcCAcCHAcJAcJHAcNYAcTTAcTTHAcDDAcDDHAcNNAcTAcTHA",
  "cDAcDHAcNAcPAcPHAcBAcBHAcMAcYAcRAcLAcVAcSHAcSSAcSAcHAcLLAcOLD TAMIL LLLAeRRAeNNNA",
  "bVOWEL SIGN AAdnBHATTIPROLUdIdIIdUdUUdVOCALIC ReRReLeLLdEdAIdOdAUbVIRAMAbDANDAbnDOUBLE",
  "bPUNCTUATION DOTcnDOUBLEcLINEcCRESCENT BARcLOTUS=11052bNUMBER ONEcTWOcTHREEcFOURcFIVEcSIX",
  "cSEVENcEIGHTcNINEcTENcTWENTYcTHIRTYcFORTYcFIFTYcSIXTYcSEVENTYcEIGHTYcNINETYcONE HUNDRED",
  "dTHOUSANDbDIGIT ZEROcONEcTWOcTHREEcFOURcFIVEcSIXcSEVENcEIGHTcNINEbSIGN OLD TAMIL VIRAMA",
  "bLETTER OLD TAMIL SHORT EfObVOWEL SIGN OLD TAMIL SHORT EgObLETTER OLD TAMIL LLA=1107F",
  "bNUMBER JOINERaKAITHI SIGN CANDRABINDUcANUSVARAcVISARGAbLETTER AcAAcIcIIcUcUUcEcAIcOcAUcKA",
  "cKHAcGAcGHAcNGAcCAcCHAcJAcJHAcNYAcTTAcTTHAcDDAcDDDHAcDDHAcRHAcNNAcTAcTHAcDAcDHAcNAcPAcPHAcBA",
  "cBHAcMAcYAcRAcLAcVAcSHAcSSAcSAcHAbVOWEL SIGN AAdIdIIdUdUUdEdAIdOdAUbSIGN VIRAMAcNUKTA",
  "bABBREVIATION SIGNbnENUMERATIONbnNUMBERbSECTION MARKboDOUBLEbDANDAbnDOUBLE",
  "bVOWEL SIGN VOCALIC R=110CDbNUMBER SIGN ABOVE=110D0aSORA SOMPENG LETTER SAHdTAHdBAHdCAHdDAH",
  "dGAHdMAHdNGAHdLAHdNAHdVAHdPAHdYAHdRAHdHAHdKAHdJAHdNYAHdAHdEEHdIHdUHdOHdEHdMAE=110F0",
  "cDIGIT ZEROdONEdTWOdTHREEdFOURdFIVEdSIXdSEVENdEIGHTdNINE=11100aCHAKMA SIGN CANDRABINDU",
  "cANUSVARAcVISARGAbLETTER AAcIcUcEcKAAcKHAAcGAAcGHAAcNGAAcCAAcCHAAcJAAcJHAAcNYAAcTTAAcTTHAA",
  "cDDAAcDDHAAcNNAAcTAAcTHAAcDAAcDHAAcNAAcPAAcPHAAcBAAcBHAAcMAAcYYAAcYAAcRAAcLAAcWAAcSAAcHAA",
  "bVOWEL SIGN AdIdIIdUdUUdEdAIdOdAUdOIbO MARKbnAUbVIRAMAbMAAYYAA=11136bDIGIT ZEROcONEcTWOcTHREE",
  "cFOURcFIVEcSIXcSEVENcEIGHTcNINEbSECTION MARKbDANDAbnDOUBLEbQUESTION MARKbLETTER LHAA",
  "bVOWEL SIGN AAdEIbLETTER VAA=11150aMAHAJANI LETTER AcIcUcEcOcKAcKHAcGAcGHAcCAcCHAcJAcJHAcNYA",
  "cTTAcTTHAcDDAcDDHAcNNAcTAcTHAcDAcDHAcNAcPAcPHAcBAcBHAcMAcRAcLAcVAcSAcHAcRRAbSIGN NUKTA",
  "bABBREVIATION SIGNbSECTION MARKbLIGATURE SHRI=11180aSHARADA SIGN CANDRABINDUcANUSVARAcVISARGA",
  "bLETTER AcAAcIcIIcUcUUcVOCALIC RdRRdLdLLcEcAIcOcAUcKAcKHAcGAcGHAcNGAcCAcCHAcJAcJHAcNYAcTTA",
  "cTTHAcDDAcDDHAcNNAcTAcTHAcDAcDHAcNAcPAcPHAcBAcBHAcMAcYAcRAcLAcLLAcVAcSHAcSSAcSAcHA",
  "bVOWEL SIGN AAdIdIIdUdUUdVOCALIC ReRReLeLLdEdAIdOdAUbSIGN VIRAMAcAVAGRAHAcJIHVAMULIYA",
  "cUPADHMANIYAbOMbDANDAbnDOUBLEbABBREVIATION SIGNbSEPARATORbSANDHI MARKbSIGN NUKTA",
  "bVOWEL MODIFIER MARKbnEXTRA SHORT VOWELbnSUTRAbVOWEL SIGN PRISHTHAMATRA E",
  "bSIGN INVERTED CANDRABINDUbDIGIT ZEROcONEcTWOcTHREEcFOURcFIVEcSIXcSEVENcEIGHTcNINEbEKAM",
  "bSIGN SIDDHAMbHEADSTROKEbCONTINUATION SIGNbSECTION MARK-1+1=111E1aSINHALA ARCHAIC DIGIT ONE",
  "dTWOdTHREEdFOURdFIVEdSIXdSEVENdEIGHTdNINEcNUMBER TENdTWENTYdTHIRTYdFORTYdFIFTYdSIXTYdSEVENTY",
  "dEIGHTYdNINETYdONE HUNDREDeTHOUSAND=11200aKHOJKI LETTER AcAAcIcUcEcAIcOcAUcKAcKHAcGAcGGAcGHA",
  "cNGAcCAcCHAcJAcJJA=11213cNYAcTTAcTTHAcDDAcDDHAcNNAcTAcTHAcDAcDDDAcDHAcNAcPAcPHAcBAcBBAcBHAcMA",
  "cYAcRAcLAcVAcSAcHAcLLAbVOWEL SIGN AAdIdIIdUdEdAIdOdAUbSIGN ANUSVARAcVIRAMAcNUKTAcSHADDAbDANDA",
  "bnDOUBLEbWORD SEPARATORbSECTION MARKboDOUBLEbABBREVIATION SIGNbSIGN SUKUN=11280",
  "aMULTANI LETTER AcIcUcEcKAcKHAcGA=11288cGHA=1128AcCAcCHAcJAcJJA=1128FcNYAcTTAcTTHAcDDAcDDDA",
  "cDDHAcNNAcTAcTHAcDAcDHAcNAcPAcPHAcBA=1129FcBHAcMAcYAcRAcLAcVAcSAcHAcRRAcRHAbSECTION MARK",
  "=112B0aKHUDAWADI LETTER AcAAcIcIIcUcUUcEcAIcOcAUcKAcKHAcGAcGGAcGHAcNGAcCAcCHAcJAcJJAcJHAcNYA",
  "cTTAcTTHAcDDAcDDDAcRRAcDDHAcNNAcTAcTHAcDAcDHAcNAcPAcPHAcBAcBBAcBHAcMAcYAcRAcLAcVAcSHAcSAcHA",
  "bSIGN ANUSVARAbVOWEL SIGN AAdIdIIdUdUUdEdAIdOdAUbSIGN NUKTAcVIRAMA=112F0bDIGIT ZEROcONEcTWO",
  "cTHREEcFOURcFIVEcSIXcSEVENcEIGHTcNINE=11300aGRANTHA SIGN COMBINING ANUSVARA ABOVEcCANDRABINDU",
  "cANUSVARAcVISARGA=11305bLETTER AcAAcIcIIcUcUUcVOCALIC RdL=1130FcEEcAI=11313cOOcAUcKAcKHAcGA",
  "cGHAcNGAcCAcCHAcJAcJHAcNYAcTTAcTTHAcDDAcDDHAcNNAcTAcTHAcDAcDHAcNA=1132AcPAcPHAcBAcBHAcMAcYA",
  "cRA=11332cLAcLLA=11335cVAcSHAcSSAcSAcHA=1133BaCOMBINING BINDU BELOWaGRANTHA SIGN NUKTA",
  "cAVAGRAHAbVOWEL SIGN AAdIdIIdUdUUdVOCALIC ReRR=11347dEEdAI=1134BdOOdAUbSIGN VIRAMA=11350bOM",
  "=11357bAU LENGTH MARK=1135DbSIGN PLUTAbLETTER VEDIC ANUSVARAdnDOUBLEcVOCALIC RRdLL",
  "bVOWEL SIGN VOCALIC LeLL=11366aCOMBINING GRANTHA DIGIT ZEROdONEdTWOdTHREEdFOURdFIVEdSIX=11370",
  "cLETTER AdKAdNAdVIdPA=11400aNEWA LETTER AcAAcIcIIcUcUUcVOCALIC RdRRdLdLLcEcAIcOcAUcKAcKHAcGA",
  "cGHAcNGAcNGHAcCAcCHAcJAcJHAcNYAcNYHAcTTAcTTHAcDDAcDDHAcNNAcTAcTHAcDAcDHAcNAcNHAcPAcPHAcBAcBHA",
  "cMAcMHAcYAcRAcRHAcLAcLHAcWAcSHAcSSAcSAcHAbVOWEL SIGN AAdIdIIdUdUUdVOCALIC ReRReLeLLdEdAIdOdAU",
  "bSIGN VIRAMAcCANDRABINDUcANUSVARAcVISARGAcNUKTAcAVAGRAHAcFINAL ANUSVARAbOMbSIDDHIbDANDA",
  "bnDOUBLEbCOMMAbGAP FILLERbABBREVIATION SIGNbDIGIT ZEROcONEcTWOcTHREEcFOURcFIVEcSIXcSEVEN",
  "cEIGHTcNINEbDOUBLE COMMAbPLACEHOLDER MARK=1145DbINSERTION SIGNbSANDHI MARK",
  "bLETTER VEDIC ANUSVARAbSIGN JIHVAMULIYAcUPADHMANIYA=11480aTIRHUTA ANJIbLETTER AcAAcIcIIcUcUU",
  "cVOCALIC RdRRdLdLLcEcAIcOcAUcKAcKHAcGAcGHAcNGAcCAcCHAcJAcJHAcNYAcTTAcTTHAcDDAcDDHAcNNAcTAcTHA",
  "cDAcDHAcNAcPAcPHAcBAcBHAcMAcYAcRAcLAcVAcSHAcSSAcSAcHAbVOWEL SIGN AAdIdIIdUdUUdVOCALIC ReRReL",
  "eLLdEdnSHORTdAIdOdnSHORTdAUbSIGN CANDRABINDUcANUSVARAcVISARGAcVIRAMAcNUKTAcAVAGRAHAbGVANG",
  "bABBREVIATION SIGNbOM=114D0bDIGIT ZEROcONEcTWOcTHREEcFOURcFIVEcSIXcSEVENcEIGHTcNINE=11580",
  "aSIDDHAM LETTER AcAAcIcIIcUcUUcVOCALIC RdRRdLdLLcEcAIcOcAUcKAcKHAcGAcGHAcNGAcCAcCHAcJAcJHA",
  "cNYAcTTAcTTHAcDDAcDDHAcNNAcTAcTHAcDAcDHAcNAcPAcPHAcBAcBHAcMAcYAcRAcLAcVAcSHAcSSAcSAcHA",
  "bVOWEL SIGN AAdIdIIdUdUUdVOCALIC ReRR=115B8dEdAIdOdAUbSIGN CANDRABINDUcANUSVARAcVISARGA",
  "cVIRAMAcNUKTAcSIDDHAMbDANDAbnDOUBLEbSEPARATOR DOTcBARbREPETITION MARK-1+2bEND OF TEXT MARK",
  "bSECTION MARK WITH TRIDENT AND U-SHAPED ORNAMENTSgDOTTED CRESCENTSepRAYShnDOUBLEhnTRIPLE",
  "dDOUBLE RINGfWITH RAYSdWITH DOUBLE CRESCENTSenTRIPLEenQUADRUPLEenSEPTUPLEeCIRCLES AND RAYS",
  "gTWO ENCLOSURESgnFOURbLETTER THREE-CIRCLE ALTERNATE IcoTWO-CIRCLEeIIcALTERNATE UboVOWEL SIGN",
  "eUU=11600aMODI LETTER AcAAcIcIIcUcUUcVOCALIC RdRRdLdLLcEcAIcOcAUcKAcKHAcGAcGHAcNGAcCAcCHAcJA",
  "cJHAcNYAcTTAcTTHAcDDAcDDHAcNNAcTAcTHAcDAcDHAcNAcPAcPHAcBAcBHAcMAcYAcRAcLAcVAcSHAcSSAcSAcHA",
  "cLLAbVOWEL SIGN AAdIdIIdUdUUdVOCALIC ReRReLeLLdEdAIdOdAUbSIGN ANUSVARAcVISARGAcVIRAMA",
  "cARDHACANDRAbDANDAbnDOUBLEbABBREVIATION SIGNbSIGN HUVA=11650bDIGIT ZEROcONEcTWOcTHREEcFOUR",
  "cFIVEcSIXcSEVENcEIGHTcNINE=11660aMONGOLIAN BIRGA WITH ORNAMENTbROTATED BIRGA",
  "bDOUBLE BIRGA WITH ORNAMENTbpTRIPLEbnBIRGA WITH DOUBLEbnROTATED BIRGA WITHenDOUBLE",
  "bINVERTED BIRGAdWITH DOUBLE ORNAMENTbSWIRL BIRGAdWITH ORNAMENTenDOUBLEbrTURNED=11680",
  "aTAKRI LETTER AcAAcIcIIcUcUUcEcAIcOcAUcKAcKHAcGAcGHAcNGAcCAcCHAcJAcJHAcNYAcTTAcTTHAcDDAcDDHA",
  "cNNAcTAcTHAcDAcDHAcNAcPAcPHAcBAcBHAcMAcYAcRAcLAcVAcSHAcSAcHAcRRAbSIGN ANUSVARAcVISARGA",
  "bVOWEL SIGN AAdIdIIdUdUUdEdAIdOdAUbSIGN VIRAMAcNUKTAbLETTER ARCHAIC KHAbABBREVIATION SIGN",
  "=116C0bDIGIT ZEROcONEcTWOcTHREEcFOURcFIVEcSIXcSEVENcEIGHTcNINE=11700aAHOM LETTER KAcKHAcNGA",
  "cNAcTAcnALTERNATEcPAcPHAcBAcMAcJAcCHAcTHAcRAcLAcSAcNYAcHAcAcDAcDHAcGAcnALTERNATEcGHAcBHAcJHA",
  "cALTERNATE BA=1171DbCONSONANT SIGN MEDIAL LAeRAenLIGATINGbVOWEL SIGN AdAAdIdIIdUdUUdEdAWdOdAI",
  "dAMbSIGN KILLER=11730bDIGIT ZEROcONEcTWOcTHREEcFOURcFIVEcSIXcSEVENcEIGHTcNINEbNUMBER TEN",
  "cTWENTYbSIGN SMALL SECTIONcncRULAIbSYMBOL VIbLETTER CAcTTAcTTHAcDDAcDDHAcNNAcLLA=11800",
  "aDOGRA LETTER AcAAcIcIIcUcUUcEcAIcOcAUcKAcKHAcGAcGHAcNGAcCAcCHAcJAcJHAcNYAcTTAcTTHAcDDAcDDHA",
  "cNNAcTAcTHAcDAcDHAcNAcPAcPHAcBAcBHAcMAcYAcRAcLAcVAcSHAcSSAcSAcHAcRRAbVOWEL SIGN AAdIdIIdUdUU",
  "dVOCALIC ReRRdEdAIdOdAUbSIGN ANUSVARAcVISARGAcVIRAMAcNUKTAbABBREVIATION SIGN=118A0",
  "aWARANG CITI CAPITAL LETTER NGAAeAeWIeYUeYAeYOeIIeUUeEeOeANGeGAeKOeENYeYUJeUCeENNeODDeTTE",
  "eNUNGeDAeATeAMeBUePUeHIYOeHOLOeHORReHAReSSUUeSIIeVIYOcSMALL LETTER NGAAeAeWIeYUeYAeYOeIIeUUeE",
  "eOeANGeGAeKOeENYeYUJeUCeENNeODDeTTEeNUNGeDAeATeAMeBUePUeHIYOeHOLOeHORReHAReSSUUeSIIeVIYO",
  "cDIGIT ZEROdONEdTWOdTHREEdFOURdFIVEdSIXdSEVENdEIGHTdNINEcNUMBER TENdTWENTYdTHIRTYdFORTYdFIFTY",
  "dSIXTYdSEVENTYdEIGHTYdNINETY=118FFcOMaDIVES AKURU LETTER AdAAdIdIIdUdUUdE=11909dO=1190CdKA",
  "dKHAdGAdGHAdNGAdCAdCHAdJA=11915dNYAdTTA=11918dDDAdDDHAdNNAdTAdTHAdDAdDHAdNAdPAdPHAdBAdBHAdMA",
  "dYAdYYAdRAdLAdVAdSHAdSSAdSAdHAdLLAdZAcVOWEL SIGN AAeIeIIeUeUUeE=11937eAIeO=1193B",
  "cSIGN ANUSVARAdCANDRABINDUdHALANTAcVIRAMAcPREFIXED NASAL SIGNcMEDIAL YAcINITIAL RAcnMEDIAL",
  "cSIGN NUKTAcDOUBLE DANDAcGAP FILLERcEND OF TEXT MARK=11950cDIGIT ZEROdONEdTWOdTHREEdFOURdFIVE",
  "dSIXdSEVENdEIGHTdNINE=119A0aNANDINAGARI LETTER AcAAcIcIIcUcUUcVOCALIC RdRR=119AAcEcAIcOcAUcKA",
  "cKHAcGAcGHAcNGAcCAcCHAcJAcJHAcNYAcTTAcTTHAcDDAcDDHAcNNAcTAcTHAcDAcDHAcNAcPAcPHAcBAcBHAcMAcYA",
  "cRAcLAcVAcSHAcSSAcSAcHAcLLAcRRAbVOWEL SIGN AAdIdIIdUdUUdVOCALIC ReRR=119DAdEdAIdOdAU",
  "bSIGN ANUSVARAcVISARGAcVIRAMAcAVAGRAHAcSIDDHAMbHEADSTROKEbVOWEL SIGN PRISHTHAMATRA E=11A00",
  "aZANABAZAR SQUARE LETTER AcVOWEL SIGN IeUEeUeEeOEeOeAIeAUeREVERSED IdLENGTH MARKcLETTER KA",
  "dKHAdGAdGHAdNGAdCAdCHAdJAdNYAdTTAdTTHAdDDAdDDHAdNNAdTAdTHAdDAdDHAdNAdPAdPHAdBAdBHAdMAdTSA",
  "dTSHAdDZAdDZHAdZHAdZAd-AdYAdRAdLAdVAdSHAdSSAdSAdHAdKSSAcFINAL CONSONANT MARKcSIGN VIRAMA",
  "dCANDRABINDUeWITH ORNAMENTdoCANDRAdANUSVARAdVISARGAcCLUSTER-INITIAL LETTER RA",
  "cCLUSTER-FINAL LETTER YAeRAeLAeVAcINITIAL HEAD MARKcoCLOSINGcMARK TSHEGdSHADdnDOUBLE",
  "dLONG TSHEGcINITIAL DOUBLE-LINED HEAD MARKcpCLOSINGcSUBJOINER=11A50aSOYOMBO LETTER A",
  "bVOWEL SIGN IdUEdUdEdOdOEdAIdAUdVOCALIC ReLcLENGTH MARKbLETTER KAcKHAcGAcGHAcNGAcCAcCHAcJA",
  "cJHAcNYAcTTAcTTHAcDDAcDDHAcNNAcTAcTHAcDAcDHAcNAcPAcPHAcBAcBHAcMAcTSAcTSHAcDZAcZHAcZAc-AcYAcRA",
  "cLAcVAcSHAcSSAcSAcHAcKSSAbSIGN JIHVAMULIYAcUPADHMANIYAbCLUSTER-INITIAL LETTER RAdLAdSHAdSA",
  "bFINAL CONSONANT SIGN GeKeNGeDeNeBeMeReLeSHeSe-AbSIGN ANUSVARAcVISARGAbGEMINATION MARK",
  "bSUBJOINERbMARK TSHEGcSHADcnDOUBLEcPLUTAbHEAD MARK WITH MOON AND SUN AND TRIPLE FLAMEinh",
  "bTERMINAL MARK-1+1=11AB0aCANADIAN SYLLABICS NATTILIK HIdHIIdHOdHOOdHAdHAAdSHRIdSHRIIdSHRO",
  "dSHROOdSHRAdSHRAAcSPEcSPIcSPOcSPAaPAU CIN HAU LETTER PAeKAeLAeMAeDAeZAeVAeNGAeHAeGAeKHAeSAeBA",
  "eCAeTAeTHAeNAePHAeRAeFAeCHAeAeEeIeOeUeUAeIAeFINAL PfKfTfMfNfLfWfNGfYdRISING TONE LONGf",
  "dSANDHI GLOTTAL STOPdRISING TONE LONG FINALfndnSANDHI GLOTTAL STOPeTONE LONGffLONG FINALfn",
  "dMID-LEVEL TONEdGLOTTAL STOP VARIANTdMID-LEVEL TONE LONG FINALfndLOW-FALLING TONE LONGf",
  "dGLOTTAL STOPdLOW-FALLING TONE LONG FINALfndnGLOTTAL STOP=11C00aBHAIKSUKI LETTER AcAAcIcIIcU",
  "cUUcVOCALIC RdRRdL=11C0AcEcAIcOcAUcKAcKHAcGAcGHAcNGAcCAcCHAcJAcJHAcNYAcTTAcTTHAcDDAcDDHAcNNA",
  "cTAcTHAcDAcDHAcNAcPAcPHAcBAcBHAcMAcYAcRAcLAcVAcSHAcSSAcSAcHAbVOWEL SIGN AAdIdIIdUdUU",
  "dVOCALIC ReRReL=11C38dEdAIdOdAUbSIGN CANDRABINDUcANUSVARAcVISARGAcVIRAMAcAVAGRAHAbDANDA",
  "bnDOUBLEbWORD SEPARATORbGAP FILLER-1+1=11C50bDIGIT ZEROcONEcTWOcTHREEcFOURcFIVEcSIXcSEVEN",
  "cEIGHTcNINEbNUMBER ONEcTWOcTHREEcFOURcFIVEcSIXcSEVENcEIGHTcNINEcTENcTWENTYcTHIRTYcFORTYcFIFTY",
  "cSIXTYcSEVENTYcEIGHTYcNINETYbHUNDREDS UNIT MARK=11C70anMARCHEN HEADbMARK SHADbLETTER KAcKHA",
  "cGAcNGAcCAcCHAcJAcNYAcTAcTHAcDAcNAcPAcPHAcBAcMAcTSAcTSHAcDZAcWAcZHAcZAc-AcYAcRAcLAcSHAcSAcHA",
  "cA=11C92bSUBJOINED LETTER KAdKHAdGAdNGAdCAdCHAdJAdNYAdTAdTHAdDAdNAdPAdPHAdBAdMAdTSAdTSHAdDZA",
  "dWAdZHAdZA=11CA9dYAdRAdLAdSHAdSAdHAdAbVOWEL SIGN AAdIdUdEdObSIGN ANUSVARAcCANDRABINDU=11D00",
  "aMASARAM GONDI LETTER AdAAdIdIIdUdUUdE=11D08dAIdO=11D0BdAUdKAdKHAdGAdGHAdNGAdCAdCHAdJAdJHA",
  "dNYAdTTAdTTHAdDDAdDDHAdNNAdTAdTHAdDAdDHAdNAdPAdPHAdBAdBHAdMAdYAdRAdLAdVAdSHAdSSAdSAdHAdLLA",
  "dKSSAdJNYAdTRAcVOWEL SIGN AAeIeIIeUeUUeVOCALIC R=11D3AeE=11D3CeAIeO=11D3FeAUcSIGN ANUSVARA",
  "dVISARGAdNUKTAdCANDRAdHALANTAcVIRAMAcREPHAcRA-KARA=11D50cDIGIT ZEROdONEdTWOdTHREEdFOURdFIVE",
  "dSIXdSEVENdEIGHTdNINE=11D60aGUNJALA GONDI LETTER AdAAdIdIIdUdUU=11D67dEEdAI=11D6AdOOdAUdYAdVA",
  "dBAdBHAdMAdKAdKHAdTAdTHAdLAdGAdGHAdDAdDHAdNAdCAdCHAdTTAdTTHAdLLAdJAdJHAdDDAdDDHAdNGAdPAdPHA",
  "dHAdRAdSAcVOWEL SIGN AAeIeIIeUeUU=11D90eEEeAI=11D93eOOeAUcSIGN ANUSVARAdVISARGAcVIRAMAcOM",
  "=11DA0cDIGIT ZEROdONEdTWOdTHREEdFOURdFIVEdSIXdSEVENdEIGHTdNINE=11EE0aMAKASAR LETTER KAcGAcNGA",
  "cPAcBAcMAcTAcDAcNAcCAcJAcNYAcYAcRAcLAcVAcSAcAbANGKAbVOWEL SIGN IdUdEdObPASSIMBANG",
  "bEND OF SECTION=11FB0aLISU LETTER YHA=11FC0aTAMIL FRACTION ONE THREE-HUNDRED-AND-TWENTIETH",
  "dONE-HUNDRED-AND-SIXTIETHdEIGHTIETHdSIXTY-FOURTHdFORTIETHdTHIRTY-SECONDcTHREE EIGHTIETHS",
  "dSIXTY-FOURTHScONE TWENTIETHdSIXTEENTH-1+1dTENTHdEIGHTHcTHREE TWENTIETHSdSIXTEENTHScONE FIFTH",
  "dQUARTERdHALF-1+1cTHREE QUARTERScDOWNSCALING FACTOR KIIZHbSIGN NELcCEVITUcAAZHAAKKUcUZHAKKU",
  "cMUUVUZHAKKUcKURUNIcPATHAKKUcMUKKURUNIcKAACUcPANAMcPONcVARAAKANcPAARAMcKUZHIcVELI",
  "bWET CULTIVATION SIGNboDRYbnLANDbnSALT PANbnTRADITIONAL CREDITcnNUMBERbnCURRENTbnAND ODD",
  "bnSPENTbnTOTALbnIN POSSESSIONbnSTARTING FROMbSIGN MUTHALIYAcVAKAIYARAA=11FFF",
  "bPUNCTUATION END OF TEXT"
]

end ApiRouter.Text.Name
