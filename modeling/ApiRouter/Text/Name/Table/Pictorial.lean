set_option autoImplicit false

/-! # Names of characters

Cuneiform, hieroglyphs and other scripts of many signs. -/

namespace ApiRouter.Text.Name

/-- The names of the characters from 12000 to 1AFFE. -/
def pictorial : List String := [
  "=12000aCUNEIFORM SIGN AdTIMES AeBADeGAN2 TENUeHAeIGIeLAGAR GUNUeMUSHeSAGcA2cABdTIMES ASH2",
  "eDUN3 GUNUeGALeGAN2 TENUeHAeIGI GUNUeIMINeLAGABeSHESHeU PLUS U PLUS UdGUNUcAB2dTIMES BALAG",
  "eGAN2 TENUeME PLUS ENeSHA3eTAK4cADcAKdTIMES ERIN2eSHITA PLUS GISHcALdTIMES ALeDIM2eGISHeHA",
  "eKAD3eKIeSHEeUSHcALANcALEPHcAMARdTIMES SHEcANdOVER ANdTHREE TIMES",
  "dPLUS NAGA OPPOSING AN PLUS NAGAfSQUAREDcANSHEcAPINcARADdTIMES KURcARKABcASAL2cASHdZIDA TENU",
  "dnKABAdOVER ASH TUG2 OVER TUG2 TUG2 OVER TUG2 PAPfOVER ASHhCROSSING ASH OVER ASH OVER ASH",
  "cASH2cASHGABcBAcBADcBAG3cBAHAR2cBALdOVER BALcBALAGcBARcBARA2cBIdTIMES AeGAReIGI GUNUcBU",
  "dOVER BU ABfUNdCROSSING BUcBULUGdOVER BULUGcBURcBUR2cDAcDAGdKISIM5 TIMES A PLUS MASHfAMAR",
  "fBALAGfBIfGAgPLUS MASHfGIfGIR2fGUDfHAfIRgPLUS LUfKAKfLAfLUgPLUS MASH2fLUMfNEfPAP PLUS PAPfSI",
  "fTAK4fU2 PLUS GIR2fUSHcDAMcDARcDARA3+1cDIcDIBcDIMdTIMES SHEcDIM2cDINdKASKAL U GUNU DISHcncDU",
  "dOVER DUdGUNUdSHESHIGcDUBdTIMES ESH2cDUB2cDUGcDUGUDcDUHcDUNcDUN3dGUNUeGUNUcDUN4cDUR2cE",
  "dTIMES PAPdOVER E NUN OVER NUNcE2dTIMES A PLUS HA PLUS DAeGAReMIeSALeSHEeUcEDINcEGIRcELcEN",
  "dTIMES GAN2fTENUeMEdCROSSING ENdnOPPOSINGdSQUAREDcERENcERIN2cESH2cEZENdTIMES AfPLUS LAL",
  "hTIMES LALeANeBADeDUN3 GUNUgGUNUeHAfGUNUenIGIeKASKALfSQUAREDeKU3eLAeLAL TIMES LALeLIeLUeU2eUD",
  "cGAdGUNUcGA2dTIMES A PLUS DA PLUS HAgngIGIeAB2 TENU PLUS TABeANeASHeASH2 PLUS GALeBAD",
  "eBAR PLUS RAeBURfPLUS RAeDAeDIeDIM TIMES SHEeDUBeELfPLUS LAeENfTIMES GAN2 TENUeoeGAReGIeGI4",
  "fPLUS AeGIR2 PLUS SUeHA PLUS LU PLUS ESH2eHALfPLUS LAeHI PLUS LIeHUB2eIGI GUNU",
  "eISH PLUS HU PLUS ASHeKAKeKASKALeKIDfPLUS LALeKU3 PLUS ANeLAeME PLUS ENeMIeNUNfOVER NUNePA",
  "eSALeSAReSHEfPLUS TUReSHIDeSUMeTAK4eUeUDfPLUS DUdOVER GA2cGABAdCROSSING GABAcGAD",
  "dOVER GAD GAR OVER GARcGALdGAD OVER GAD GAR OVER GARcGALAMcGAMcGANcGAN2dTENUdOVER GAN2",
  "dnCROSSINGcGARcGAR3cGASHANcGESHTINdTIMES KURcGIdTIMES EeUdCROSSING GIcGI4dOVER GI4dnCROSSING",
  "cGIDIMcGIR2dGUNUcGIR3dTIMES A PLUS IGIeGAN2 TENUeIGIenLU PLUSePAcGISALcGISHdCROSSING GISH",
  "dTIMES BADeTAK4dTENUcGUdCROSSING GUcGU2dTIMES KAKfTIMES IGI GUNUeNUNeSAL PLUS TUG2dGUNUcGUD",
  "dTIMES A PLUS KURendOVER GUD LUGALcGULcGUMdTIMES SHEcGURcGUR7cGURUNcGURUSHcHAdTENUdGUNUcHAL",
  "cHIdTIMES ASHeASH2eBADeDISHeGADeKINeNUNeSHEeUcHUcHUB2dTIMES ANeHALeKASKALeLISHeUDcHUL2cIdAcIB",
  "cIDIMdOVER IDIM BURfSQUAREDcIGcIGIdDIBdRIdOVER IGI SHIR OVER SHIR UD OVER UDdGUNUcIL",
  "dTIMES GAN2 TENUcIL2cIMdTIMES TAK4dCROSSING IMdnOPPOSINGdSQUAREDcIMINcINcIRcISHcKAdTIMES AeAD",
  "fPLUS KU3eASH2eBADeBALAGeBAReBIeERIN2eESH2eGAeGALeGAN2 TENUeGARfPLUS SHA3 PLUS AeGIeGIR2",
  "eGISH PLUS SARfCROSSING GISHeGUeGUR7eIGIeIMeKAKeKIeKIDeLIeLUeMEfPLUS DUgGIgTEeMIfPLUS NUNUZ",
  "eNEeNUNePIeRUeSAeSAReSHAeSHEeSHIDeSHUeSIGeSUHUReTAReUeU2eUDeUMUM TIMES PAeUSHeZIcKA2",
  "dCROSSING KA2cKABcKAD2+3dOVER KAD5cKAKdTIMES IGI GUNUcKALdTIMES BADdCROSSING KALcKAM2cKAM4",
  "cKASKALdLAGAB TIMES U OVER LAGAB TIMES UdtOVER KASKALcKESH2cKIdTIMES BADeUeUDcKIDcKINcKISAL",
  "cKISHcKISIM5dOVER KISIM5cKUdOVER HI TIMES ASH2 KU OVER HI TIMES ASH2cKU3+1dVARIANT FORMcKU7",
  "cKULdGUNUcKUNcKURdOPPOSING KURcKUSHU2cKWU318cLAcLAGABdTIMES AfPLUS DA PLUS HAgGARgLALeALeAN",
  "eASH ZIDA TENUeBADeBIeDAReENeGAeGAReGUDfPLUS GUDeHAeHALeHI TIMES NUNeIGI GUNUeIMfPLUS HAgLU",
  "eKIeKINeKU3eKULfPLUS HI PLUS AeLAGABeLISHeLUeLULeMEfPLUS ENeMUSHeNEeSHE PLUS SUM",
  "eSHITA PLUS GISH PLUS ERIN2hTENUeSHU2fPLUS SHU2eSUMeTAGeTAK4eTE PLUS A PLUS SU PLUS NAeU",
  "fPLUS AgU PLUS UeU2 PLUS ASHeUDeUSHdSQUAREDcLAGARdTIMES SHEfPLUS SUMdGUNUeOVER LAGAR GUNU SHE",
  "cLAHSHUcLALdTIMES LALcLAMdTIMES KURfPLUS RUcLIcLILcLIMMU2cLISHcLUdTIMES BADcLU2dTIMES ALeBAD",
  "eESH2fTENUenGAN2eHI TIMES BADeIMeKAD2+1fPLUS ASHeKIeLA PLUS ASHeLAGABeME PLUS ENeNEeNU",
  "eSI PLUS ASHeSIK2 PLUS BUeTUG2dTENUdCROSSING LU2dnOPPOSINGdSQUAREDdSHESHIGcLU3cLUGAL",
  "dOVER LUGALdnOPPOSINGdSHESHIGcLUHcLULcLUMdOVER LUMfGAR OVER GARcMAdTIMES TAK4dGUNUcMA2cMAH",
  "cMARcMASHcMASH2cMEcMEScMIcMINcMUdOVER MUcMUGdGUNUcMUNSUBcMURGU2cMUSHdTIMES AeKUReZAdOVER MUSH",
  "fTIMES A PLUS NAdCROSSING MUSHcMUSH3dTIMES AfPLUS DIendGUNUcNAcNA2cNAGAdINVERTED",
  "dTIMES SHU TENUdOPPOSING NAGAcNAGARcNAM NUTILLUdcNAM2cNEdTIMES AeUDdSHESHIGcNIdTIMES EcNI2",
  "cNIMdTIMES GAN2 TENUeoGAR PLUScNINDA2dTIMES ANeASHfPLUS ASHeGUDeME PLUS GAN2 TENUeNEeNUNeSHE",
  "fPLUS A ANgASHhPLUS ASHeoU2eUSHcNISAGcNUcNU11cNUNdLAGAR TIMES GARfMASHfSAL",
  "gOVER NUN LAGAR TIMES SALfUSHdTENUdOVER NUNdnCROSSINGfLAGAR OVER LAGARcNUNUZdAB2 TIMES ASHGAB",
  "fBIfDUGfGUDfIGI GUNUfKAD3fLAfNEfSILA3fU2dKISIM5 TIMES BIgUcPAcPADcPANcPAPcPESH2cPIdTIMES AeAB",
  "eBIeBUeEeIeIBeUeU2dCROSSING PIcPIRIGdTIMES KALeUDeZAdOPPOSING PIRIGcRAcRABcRIcRUcSA",
  "cSAG NUTILLUddTIMES AeDUeDUBeHAeKAKeKUReLUMeMIeNUNeSALeSHIDeTABeU2eUBeUMeUReUSHdOVER SAGdGUNU",
  "cSALdLAGAB TIMES ASH2cSANGA2cSARcSHAcSHA3dTIMES AeBADeGISHeNEeSHU2eTUReUfPLUS AcSHA6cSHAB6",
  "cSHAR2cSHEdHUdOVER SHE GAD OVER GAD GAR OVER GARfpTAB OVER TABcSHEG9cSHENcSHESHcSHESH2",
  "cSHESHLAMcSHIDdTIMES AeIMcSHIMdTIMES AeBALeBULUGeDINeGAReIGIfGUNUeKUSHU2eLULeMUGeSALcSHINIG",
  "cSHIRdTENUdOVER SHIR BUR OVER BURcSHITAcSHUdOVER INVERTED SHUcSHU2cSHUBURcSIdGUNUcSIGcSIG4",
  "dOVER SIG4 SHU2cSIK2cSILA3cSUdOVER SUcSUDcSUD2cSUHURcSUMcSUMASHcSURcSUR9cTAdASTERISKdTIMES HI",
  "eMIdGUNUcTABdOVER TAB NI OVER NI DISH OVER DISHdSQUAREDcTAGdTIMES BIeGUDeSHEeSHUeTUG2eUDcTAK4",
  "cTARcTEdGUNUcTIdTENUcTILcTIRdTIMES TAK4dOVER TIRfGAD OVER GAD GAR OVER GARcTUcTUG2cTUKcTUM",
  "cTURdOVER TUR ZA OVER ZAcUdGUDdU UdOVER U PA OVER PA GAR OVER GARfSUR OVER SUR",
  "fU REVERSED OVER U REVERSEDcU2cUBcUDdKUSHU2dTIMES BADeMIeU PLUS U PLUS UjGUNUdndSHESHIG",
  "eTIMES BADcUDUGcUMdTIMES LAGABeME PLUS DAeSHA3eUcUMBINcUMUMdTIMES KASKALePAcUNdGUNUcUR",
  "dCROSSING URdSHESHIGcUR2dTIMES A PLUS HAgNAeALeHAeNUNeU2fPLUS ASHgBIcUR4cURIcURI3cURUdTIMES A",
  "eASHGABeBAReDUNeGAeGALeGAN2 TENUeGAReGUeHAeIGIeIMeISHeKIeLUMeMINePAeSHEeSIG4eTUeU PLUS GUDeUD",
  "eURUDAcndTIMES UcUSHdTIMES AeKUeKUReTAK4cUSHXcUSH2cUSHUMXcUTUKIcUZ3dTIMES KASKALcUZUcZAdTENU",
  "dSQUARED TIMES KURcZAGcZAMXcZE2cZIdOVER ZIcZI3cZIBdKABA TENUcZIGcZIZ2cZUcZU5dTIMES AcZUBUR",
  "cZUMcKAP ELAMITEcAB TIMES NUNcAB2 TIMES AcAMAR TIMES KUGcDAG KISIM5 TIMES U2 PLUS MASHcDAG3",
  "cDISH PLUS SHUcDUB TIMES SHEcEZEN TIMES GUDeSHEcGA2 TIMES AN PLUS KAK PLUS AeASH2cGE22cGIG",
  "cHUSHcKA TIMES ANSHEeASH3eGISHeGUDeHI TIMES ASH2eLUMePAeSHULeTUeUR2cLAGAB TIMES GI",
  "cLU2 SHESHIG TIMES BADdTIMES ESH2 PLUS LALeSHUcMESHcMUSH3 TIMES ZAcNA4cNINcNIN9",
  "cNINDA2 TIMES BALeGIcNU11 ROTATED NINETY DEGREEScPESH2 ASTERISKcPIR2cSAG TIMES IGI GUNUcTI2",
  "cUM TIMES MEcU U=12400bNUMERIC SIGN TWO ASHdnTHREEdnFOURdnFIVEdnSIXdnSEVENdnEIGHTdnNINE",
  "dTHREE DISHdnFOURdnFIVEdnSIXdnSEVENdnEIGHTdnNINEdFOUR UdnFIVEdnSIXdnSEVENdnEIGHTdnNINE",
  "dONE GESH2dnTWOdnTHREEdnFOURdnFIVEdnSIXdnSEVENdnEIGHTdnNINEdONE GESHUdnTWOdnTHREEdnFOURdnFIVE",
  "dTWO SHAR2dnTHREEfVARIANT FORMdFOUR SHAR2dnFIVEdnSIXdnSEVENdnEIGHTdnNINEdONE SHARUdnTWO",
  "dnTHREEfVARIANT FORMdFOUR SHARUdnFIVEdSHAR2 TIMES GAL PLUS DISHhMINdONE BURUdnTWOdnTHREE",
  "fVARIANT FORMdFOUR BURUdnFIVEdTHREE VARIANT FORM ESH16gESH21dFOUR VARIANT FORM LIMMUgLIMMU4",
  "gLIMMU AhBdSIX VARIANT FORM ASH9dSEVEN VARIANT FORM IMIN3gIMIN AhBdEIGHT VARIANT FORM USSU",
  "gUSSU3dNINE VARIANT FORM ILIMMUgILIMMU3+1gILIMMU AdTWO ASH TENUdoTHREEdoFOURdoFIVEdoSIX",
  "dONE BAN2dnTWOdnTHREEdnFOURfVARIANT FORMdFIVE BAN2fVARIANT FORMdNIGIDAMINdNIGIDAESHdONE ESHE3",
  "dnTWOdONE THIRD DISHdnTWO THIRDSdnFIVE SIXTHSdONE THIRD VARIANT FORM AdpTWO THIRDS",
  "dONE EIGHTH ASHenQUARTERdOLD ASSYRIAN ONE SIXTHgQUARTERdONE QUARTER GURenHALF",
  "dELAMITE ONE THIRDeTWO THIRDSeFORTYeFIFTYdFOUR U VARIANT FORMdpFIVEdpSIXdpSEVENdpEIGHTdpNINE",
  "=12470bPUNCTUATION SIGN OLD ASSYRIAN WORD DIVIDERdVERTICAL COLONdnDIAGONALeTRICOLONeQUADCOLON",
  "=12480bSIGN AB TIMES NUN TENUeSHU2cAD TIMES ESH2cBAD TIMES DISH TENUcBAHAR2 TIMES AB2eNIeZA",
  "cBU OVER BU TIMES NA2cDA TIMES TAK4cDAG TIMES KURcDIM TIMES IGIeU U UcDIM2 TIMES UD",
  "cDUG TIMES ANSHEeASHfAT LEFTeDINeDUNeERIN2eGAeGIeGIR2 GUNUeGISHeHAeHIeIGI GUNUeKASKALeKUR",
  "eKUSHU2fPLUS KASKALeLAK-020eLAMfTIMES KUReLUH PLUS GISHeMASHeMESeMIeNIePIeSHEeSI GUNU",
  "cE2 TIMES KURePAPcERIN2 XcESH2 CROSSING ESH2cEZEN SHESHIG TIMES ASHfHIfIGI GUNUfLAfLALfMEfMES",
  "fSUdocGA2 TIMES BAHAR2eDIM GUNUenDUG TIMES IGIgKASKALeERENeGAeGAR PLUS DIgNEeHA PLUS A",
  "eKUSHU2 PLUS KASKALeLAMfTIMES KUReLUHeMUSHeNEfPLUS E2gGIeSHIMeZIZ2",
  "cGABA ROTATED NINETY DEGREEScGESHTIN TIMES UcGISH TIMES GISH CROSSING GISHcGU2 TIMES IGI GUNU",
  "cGUD PLUS GISH TIMES TAK4cHA TENU GUNUcHI TIMES ASH OVER HI TIMES ASHcKA TIMES BUeKAeU U UeUR",
  "cLAGAB TIMES ZU OVER ZUcLAK-003cLAK-021cLAK-025cLAK-030cLAK-050+1cLAK-062",
  "cLAK-079 OVER LAK-079 GUNUcLAK-080cLAK-081 OVER LAK-081cLAK-092cLAK-130cLAK-142cLAK-210",
  "cLAK-219+1cLAK-225cLAK-228cLAK-238cLAK-265+1cLAK-343cLAK-347+1cLAK-383+1cLAK-390cLAK-441",
  "cLAK-449dTIMES GUeIGIePAP PLUS LU3gnPAP PLUSeU2 PLUS BAcLAK-450cLAK-457cLAK-470cLAK-483",
  "cLAK-490cLAK-492+1cLAK-495cLAK-550cLAK-608cLAK-617dTIMES ASHeBADeDUN3 GUNU GUNUeKU3eLAeTAReTE",
  "eU2eUDeURUDAcLAK-636cLAK-648dTIMES DUBeGAeIGIfGUNUeNIePAP PLUS PAP PLUS LU3eSHESH PLUS KIeUD",
  "eURUDAcLAK-724cLAK-749cLU2 GUNU TIMES ASHdTIMES DISHeHALePAPfPLUS PAP PLUS LU3eTAK4",
  "cMI PLUS ZA7cMUSH OVER MUSH TIMES GAgKAKcNINDA2 TIMES DIM GUNUeGISHeGULeHIeKESH2eLAK-050eMASH",
  "ePAP PLUS PAPeUfPLUS UeURUDAcSAG GUNU TIMES HAdTIMES ENeSHE AT LEFTeTAK4cSHA6 TENU",
  "cSHE OVER SHEdPLUS HUB2eNAM2eSARcSHU2 PLUS DUG TIMES NIeE2 TIMES ANcSI TIMES TAK4",
  "cTAK4 PLUS SAGcTUM TIMES GAN2 TENUeTHREE DISHcUR2 INVERTEDdTIMES UDcURU TIMES DARA3eLAK-668",
  "eLU3cZA7cZU OVER ZU PLUS SARcZU5 TIMES THREE DISH TENU=12F90aCYPRO-MINOAN SIGN CM001+1cCM004",
  "+8cCM012BcCM013cCM015cCM017cCM019cCM021cCM023+7cCM033+8cCM044cCM046+1cCM049+7cCM058+6cCM066+9",
  "cCM075BcCM076cCM078+14cCM094+11cCM107+3cCM112cCM114cCM301+1=13000aEGYPTIAN HIEROGLYPH A001+4",
  "cA005AcA006cA006AcA006BcA007+7cA014AcA015+2cA017AcA018+14cA032AcA033+7cA040AcA041+1cA042A",
  "cA043cA043AcA044+1cA045AcA046+24cB001+4cB005AcB006+3cC001+1cC002AcC002BcC002CcC003+7cC010A",
  "cC011+13cD001+7cD008AcD009+18cD027AcD028+3cD031AcD032+2cD034AcD035+11cD046AcD047+1cD048AcD049",
  "+1cD050AcD050BcD050CcD050DcD050EcD050FcD050GcD050HcD050IcD051+1cD052AcD053+1cD054AcD055+12",
  "cD067AcD067BcD067CcD067DcD067EcD067FcD067GcD067HcE001+7cE008AcE009cE009AcE010+6cE016AcE017",
  "cE017AcE018+2cE020AcE021+7cE028AcE029+5cE034AcE036+2cF001cF001AcF002+11cF013AcF014+7cF021A",
  "cF022+9cF031AcF032+5cF037AcF038cF038AcF039+6cF045AcF046cF046AcF047cF047AcF048+3cF051AcF051B",
  "cF051CcF052+1cG001+5cG006AcG007cG007AcG007BcG008+3cG011AcG012+8cG020AcG021+5cG026AcG027+9",
  "cG036AcG037cG037AcG038+5cG043AcG044+1cG045AcG046+8cH001+5cH006AcH007+1cI001+4cI005AcI006+3",
  "cI009AcI010cI010AcI011cI011AcI012+3cK001+7cL001+1cL002AcL003+3cL006AcL007+1cM001cM001AcM001B",
  "cM002+1cM003AcM004+6cM010AcM011+1cM012AcM012BcM012CcM012DcM012EcM012FcM012GcM012HcM013+2",
  "cM015AcM016cM016AcM017cM017AcM018+4cM022AcM023+1cM024AcM025+3cM028AcM029+2cM031AcM032+1cM033A",
  "cM033BcM034+6cM040AcM041+3cN001+17cN018AcN018BcN019+6cN025AcN026+7cN033AcN034cN034AcN035",
  "cN035AcN036+1cN037AcN038+4cNL001+4cNL005AcNL006+11cNL017AcNL018+2cNU001+9cNU010AcNU011cNU011A",
  "cNU012+6cNU018AcNU019+3cNU022AcO001cO001AcO002+3cO005AcO006cO006AcO006BcO006CcO006DcO006E",
  "cO006FcO007+3cO010AcO010BcO010CcO011+8cO019AcO020cO020AcO021+3cO024AcO025cO025AcO026+3cO029A",
  "cO030cO030AcO031+2cO033AcO034+2cO036AcO036BcO036CcO036DcO037+13cO050AcO050BcO051cP001cP001A",
  "cP002+1cP003AcP004+7cQ001+6cR001+1cR002AcR003cR003AcR003BcR004+6cR010AcR011+5cR016AcR017+12",
  "cS001+1cS002AcS003+3cS006AcS007+7cS014AcS014BcS015+2cS017AcS018+8cS026AcS026BcS027+8cS035A",
  "cS036+10cT001+2cT003AcT004+3cT007AcT008cT008AcT009cT009AcT010+1cT011AcT012+4cT016AcT017+15",
  "cT032AcT033cT033AcT034+2cU001+5cU006AcU006BcU007+16cU023AcU024+5cU029AcU030+2cU032AcU033+9",
  "cV001cV001AcV001BcV001CcV001DcV001EcV001FcV001GcV001HcV001IcV002cV002AcV003+4cV007AcV007B",
  "cV008+3cV011AcV011BcV011CcV012cV012AcV012BcV013+7cV020AcV020BcV020CcV020DcV020EcV020FcV020G",
  "cV020HcV020IcV020JcV020KcV020LcV021+2cV023AcV024+4cV028AcV029cV029AcV030cV030AcV031cV031A",
  "cV032+1cV033AcV034+3cV037AcV038+2cV040AcW001+2cW003AcW004+5cW009AcW010cW010AcW011+3cW014A",
  "cW015+2cW017AcW018cW018AcW019+5cW024AcW025cX001+3cX004AcX004BcX005+1cX006AcX007+1cX008AcY001",
  "cY001AcY002+6cZ001+1cZ002AcZ002BcZ002CcZ002DcZ003cZ003AcZ003BcZ004cZ004AcZ005cZ005AcZ006+9",
  "cZ015AcZ015BcZ015CcZ015DcZ015EcZ015FcZ015GcZ015HcZ015IcZ016cZ016AcZ016BcZ016CcZ016DcZ016E",
  "cZ016FcZ016GcZ016HcAA001+6cAA007AcAA007BcAA008+24=13430cVERTICAL JOINERcnHORIZONTAL",
  "cINSERT AT TOP STARTenBOTTOMeTOP ENDenBOTTOMcOVERLAY MIDDLEcBEGIN SEGMENTcnEND=14400",
  "aANATOLIAN HIEROGLYPH A001+9cA010AcA011+15cA026AcA027+12cA039AcA040+1cA041AcA042+3cA045AcA046",
  "cA046AcA046BcA047+19cA066AcA066BcA066CcA067+30cA097AcA098cA098AcA099+1cA100AcA101cA101AcA102",
  "cA102AcA103+1cA104AcA104BcA104CcA105cA105AcA105BcA106+1cA107AcA107BcA107CcA108+2cA110AcA110B",
  "cA111+4cA115AcA116+9cA125AcA126+9cA135AcA136+66cA202AcA202BcA203+4cA207AcA208+1cA209AcA210+5",
  "cA215AcA216cA216AcA217+10cA227AcA228+39cA267AcA268+21cA289AcA290+4cA294AcA295+4cA299AcA300+9",
  "cA309AcA310+19cA329AcA330+1cA332AcA332BcA332CcA333+3cA336AcA336BcA336CcA337+22cA359AcA360+4",
  "cA364AcA365+3cA368AcA369+2cA371AcA372+9cA381AcA382cA383 RA OR RIcA383AcA384+2cA386AcA387+5",
  "cA393 EIGHTcA394+15cA410 BEGIN LOGOGRAM MARKcoA410A ENDcA411+39cA450AcA451+6cA457AcA458+39",
  "cA501+29=16800aBAMUM LETTER PHASE-A NGKUE MFONdGBIEE FONdPON MFON PIPAEMGBIEEfPIPAEMBA",
  "dNAA MFONdSHUENSHUETdTITA MFONdnNZAdSHINDA PA NJIdPON PA NJI PIPAEMGBIEEgPIPAEMBAdMAEMBGBIEE",
  "dTU MAEMBAdNGANGUdMAEMVEUXdMANSUAEdMVEUAENGAMdSEUNYAMdNTOQPENdKEUKEUTNDAdNKINDIdSUU",
  "dNGKUENZEUMdLAPAQdLET KUTdNTAP MFAAdMAEKEUPdPASHAEdGHEUAERAEdPAMSHAEdMON NGGEUAETdNZUN MEUT",
  "dU YUQ NAEdGHEUAEGHEUAEdNTAP NTAAdSISAdMGBASAdMEUNJOMNDEUQdMOOMPUQdKAFAdPA LEERAEWAdnNDAdPET",
  "dMAEMKPENdNIKAdPUPdTUAEPdLUAEPdSONJAMdTEUTEUWENdMAENYIdKETdNDAANGGEUAETdKUOQdMOOMEUTdSHUM",
  "dLOMMAEdFIRIdROMdKPOQdSOQdMAP PIEETdSHIRAEdNTAPdSHOQ NSHUT YUMdNYIT MONGKEUAEQdPAARAEdNKAARAE",
  "dUNKNOWNdNGGENdMAESIdNJAMdMBANYIdNYETdTEUAENdSOTdPAAMdNSHIEEdMAEMdNYIdKAQdNSHAdVEEdLUdNENdNAQ",
  "dMBAQcPHASE-B NSHUETdTU MAEMGBIEEdSIEEdSET TUdLOM NTEUMdMBA MAELEEdKIEEMdYEURAEdMBAARAEdKAM",
  "dPEESHIdYAFU LEERAEWAdLAM NSHUT NYAMdNTIEE SHEUOQdNDU NJAAdGHEUGHEUAEMdPITdTU NSIEEdSHET NJAQ",
  "dSHEUAEQTUdMFON TEUAEQdMBIT MBAAKETdNYI NTEUMdKEUPUQdGHEUGHENdKEUYEUXdLAANAEdPARUMdVEUM",
  "dNGKINDI MVOPdNGGEU MBUdWUAETdSAKEUAEdTAAMdMEUQdNGGUOQeLARGEdMFIYAQdSUEdMBEURIdMONTIEEN",
  "dNYAEMAEdPUNGAAMdMEUT NGGEETdFEUXdMBUOQdFEEdKEUAEMdMA NJEUAENAeNJUQAdLETdNGGAAMdNSENdMAdKIQ",
  "dNGOMcPHASE-C NGKUE MAEMBAdNZAdYUMdWANGKUOQdNGGENdNDEUAEREEdNGKAQdGHARAEdMBEEKEETdGBAYI",
  "dNYIR MKPARAQ MEUNdNTU MBITdMBEUMdPIRIEENdNDOMBUdMBAA CABBAGE-TREEdKEUSHEUAEPdGHAPdKEUKAQ",
  "dYU MUOMAEdNZEUMdMBUEdNSEUAENdMBITdYEUQdKPARAQdKAAdSEUXdNDIDAdTAASHAEdNJUEQdTITA YUEdSUAET",
  "dNGGUAEN NYAMdVEUXdNANSANAQdMA KEUAERIdNTAAdNGGUONdLAPdMBIRIEENdMGBASAQdNTEUNGBAdTEUTEUX",
  "dNGGUMdFUEdNDEUTdNSAdNSHAQdBUNGdVEUAEPENdMBERAEdRUdNJAEMdLAMdTITUAEPdNSUOT NGOMdNJEEEEdKET",
  "dNGGUdMAESIdMBUAEMdLUdKUTdNJAMdNGOMdWUPdNGGUEETdNSOMdNTENdKUOP NKAARAEdNSUNdNDAMdMA NSIEEdYAA",
  "dNDAPdSHUEQdSETFONdMBIdMAEMBAdMBANYIdKEUSEUXdMBEUXdKEUMdMBAA PICKETdYUWOQdNJEUXdMIEEdMUAE",
  "dSHIQdKEN LAWeFATIGUEdNGAQdNAQdLIQdPINdPENdTETcPHASE-D MBUOdWAPdNJIdMFONdNJIEEdLIEEdNJEUT",
  "dNSHEEdNGGAAMAEdNYAMdWUAENdNGKUNdSHEEdNGKAPdKEUAETMEUNdTEUTdSHEUAEdNJAPdSUEdKETdYAEMMAEdKUOM",
  "dSAPdMFEUTdNDEUXdMALEERIdMEUTdSEUAEQdYENdNJEUAEMdKEUOT MBUAEdNGKEURIdTUdGHAAdNGKYEEdFEUFEUAET",
  "dNDEEdMGBOFUMdLEUAEPdNDONdMONIdMGBEUNdPUUTdMGBIEEdMFOdLUMdNSIEEPdMBAAdKWAETdNYETdTEUAENdSOT",
  "dYUWOQdKEUMdRAEMdTEEEEdNGKEUAEQdMFEUAEdNSIEETdKEUPdPIPdPEUTAEdNYUEdLETdNGGAAMdMFIEEdNGGWAEN",
  "dYUOMdPAPdYUOPdNDAMdNTEUMdSUAEdKUNdNGGEUXdNGKIEEdTUOTdMEUNdKUQdNSUMdTEUNdMAENJETdNGGAPdLEUM",
  "dNGGUOMdNSHUTdNJUEQdGHEUAEdKUdREN OLDdTAEdTOQdNYIdRIIdLEEEEdMEEEEdMdSUUdMUdSHIIdSHEUXdKYEEdNU",
  "dSHUdNTEEdPEEdNIdSHOQdPUQdMVOPdLOQdREN MUCHdTIdNTUUdMBAA SEVENdSAQdFAAcPHASE-E NDAPdTOON",
  "dMBEUMdLAPdVOMdLOONdPAAdSOMdRAQdNSHUOPdNDUNdPUAEdTAMdNGKAdKPEUXdWUOdSEEdNGGEUAETdPAAMdTOO",
  "dKUOPdLOMdNSHIEEdNGOPdMAEMdNGKEUXdNGOQdNSHUEdRIMGBAdNJEUXdPEEMdSAAdNGGURAEdMGBAdGHEUX",
  "dNGKEUAEMdNJAEMLIdMAPdLOOTdNGGEEEEdNDIQdTAEN NTEUMdSETdPUMdNDAA SOFTNESSdNGGUAESHAE NYAMdYIEE",
  "dGHEUNdTUAEdYEUAEdPOdTUMAEdKEUAEdSUAENdTEUAEQdVEUAEdWEUXdLAAMdPUdTAAQdGHAAMAEdNGEUREUT",
  "dSHEUAEQdMGBENdMBEEdNZAQdNKOMdGBETdTUMdKUETdYAPdNYI CLEAVERdYITdMFEUQdNDIAQdPIEEQdYUEQdLEUAEM",
  "dFUEdGBEUXdNGKUPdKETdMAEdNGKAAMIdGHETdFAdNTUMdPEUTdYEUMdNGGEUAEdNYI BETWEENdNZUQdPOONdMIEE",
  "dFUETdNAEdMUAEdGHEUAEdFU IdMVIdPUAQdNGKUMdKUTdPIETdNTAPdYEUAETdNGGUPdPA PEOPLEdFU CALLdFOM",
  "dNJEEdAdTOQdOdIdLAQdPA PLURALdTAAdTAQdNDAA MY HOUSEdSHIQdYEUXdNGUAEdYUAENdYOQ SWIMMINGeCOVER",
  "dYUQdYUNdKEUXdPEUXdNJEE EPOCHdPUEdWUEdFEEdVEEdLUdMIdREUXdRAEdNGUAETdNGAdSHOdSHOQdFU REMEDYdNA",
  "dPIdLOQdKOdMENdMAdMAQdTEUdKIdMONdTENdFAQdGHOMcPHASE-F KAdUdKUdEEdREEdTAEdNYIdLAdRIIdRIEE",
  "dMEEEEdTAAdNDAAdNJAEMdMdSUUdSHIIdSIdSEUXdKYEEdKETdNUAEdNUdNJUAEdYOQdSHUdYAdNSHAdPEUXdNTEEdWUE",
  "dPEEdRUdNIdREUXdKENdNGKWAENdNGGAdSHOdPUAEdFOMdWAdLIdLOQdKOdMBENdRENdMAdMOdMBAAdTETdKPAdSAMBA",
  "dVUEQ=16A40aMRO LETTER TAcNGIcYOcMIMcBAcDAcAcPHIcKHAIcHAOcDAIcCHUcKEAAEcOLcMAEMcNINcPAcOOcO",
  "cROcSHIcTHEAcEAcWAcEcKOcLANcLAcHAIcRIcTEK=16A60bDIGIT ZEROcONEcTWOcTHREEcFOURcFIVEcSIXcSEVEN",
  "cEIGHTcNINE=16A6EbDANDAbnDOUBLEaTANGSA LETTER OZcOCcOQcOXcAZcACcAQcAXcVZcVCcVQcVXcEZcECcEQcEX",
  "cIZcICcIQcIXcUZcUCcUQcUXcAWZcAWCcAWQcAWXcUIZcUICcUIQcUIXcFINAL NGcLONG UEXcSHORT UEZdAWXcUEC",
  "cUEZcUEQcUEXcUIUZcUIUCcUIUQcUIUXcMZcMCcMQcMXcKAcKHAcGAcNGAcSAcYAcWAcPAcNYAcPHAcBAcMAcNAcHAcLA",
  "cHTAcTAcDAcRAcNHAcSHAcCAcTSAcGHAcHTTAcTHAcXAcFAcDHAcCHAcZA=16AC0bDIGIT ZEROcONEcTWOcTHREE",
  "cFOURcFIVEcSIXcSEVENcEIGHTcNINE=16AD0aBASSA VAH LETTER ENNIdKAdSEdFAdMBEdYIEdGAHdDHIIdKPAHdJO",
  "dHWAHdWAdZOdGBUdDOdCEdUWUdTOdBAdVUdYEINdPAdWADDAdAdOdOOdUdEEdEdI=16AF0cCOMBINING HIGH TONE",
  "dnLOWdnMIDdnLOW-MIDdnHIGH-LOWcFULL STOP=16B00aPAHAWH HMONG VOWEL KEEBdKEEVdKIBdKIVdKAUBdKAUV",
  "dKUBdKUVdKEBdKEVdKAIBdKAIVdKOOBdKOOVdKAWBdKAWVdKUABdKUAVdKOBdKOVdKIABdKIAVdKABdKAVdKWBdKWV",
  "dKAABdKAAVcCONSONANT VAUdNTSAUdLAUdHAUdNLAUdRAUdNKAUdQHAUdYAUdHLAUdMAUdCHAUdNCHAUdHNAUdPLHAU",
  "dNTHAUdNAUdAUdXAUdCAUcMARK CIM TUBeSOeKESeKHAVeSUAMeHOMeTAUMcSIGN VOS THOMeTSHAB CEEB",
  "dCIM CHEEMdVOS THIABeFEEMdXYEEM NTXIVeRHOeTOVeFAIBdVOS SEEVdMEEJ SUABdVOS NRUAdIB YAMdXAUS",
  "dCIM TSOV ROG=16B50cDIGIT ZEROdONEdTWOdTHREEdFOURdFIVEdSIXdSEVENdEIGHTdNINE=16B5BcNUMBER TENS",
  "dHUNDREDSdTEN THOUSANDSdMILLIONSdnHUNDREDdTEN BILLIONSdTRILLIONS=16B63cSIGN VOS LUBdXYOOdHLI",
  "dnTHIRD-STAGEdZWJ THAJdHNUBdNQIGdXIABdNTUJdAVdTXHEEJ CEEVdMEEJ TSEEBdTAUdLOSdMUS",
  "dCIM HAIS LUS NTOG NTOGeCUAM TSHOOJeTXWVfCHWVePUB DAWBeNRES TOS=16B7DcCLAN SIGN TSHEEJeYEEG",
  "eLISeLAUJeXYOOJeKOOeHAWJeMUASeTHOJeTSABePHABeKHABeHAMeVAJeFAJeYAJeTSWBeKWMeVWJ=16E40",
  "aMEDEFAIDRIN CAPITAL LETTER MdSdVdWdATIUdZdKPdPdTdGdFdIdKdAdJdEdBdCdUdYUdLdQdHPdNYdXdDdOEdNdR",
  "dOdAIdYbSMALL LETTER MdSdVdWdATIUdZdKPdPdTdGdFdIdKdAdJdEdBdCdUdYUdLdQdHPdNYdXdDdOEdNdRdOdAIdY",
  "bDIGIT ZEROcONEcTWOcTHREEcFOURcFIVEcSIXcSEVENcEIGHTcNINEbNUMBER TENcELEVENcTWELVEcTHIRTEEN",
  "cFOURTEENcFIFTEENcSIXTEENcSEVENTEENcEIGHTEENcNINETEENbDIGIT ONE ALTERNATE FORMcoTWOcoTHREE",
  "bCOMMAbFULL STOPbSYMBOL AIVAbEXCLAMATION OH=16F00aMIAO LETTER PAcBAcYI PAcPLAcMAcMHA",
  "cARCHAIC MAcFAcVAcVFAcTAcDAcYI TTAdTAcTTAcDDAcNAcNHAcYI NNAcARCHAIC NAcNNAcNNHAcLAcLYAcLHA",
  "cLHYAcTLHAcDLHAcTLHYAcDLHYAcKAcGAcYI KAcQAcQGAcNGAcNGHAcARCHAIC NGAcHAcXAcGHAcGHHAcTSSAcDZZA",
  "cNYAcNYHAcTSHAcDZHAcYI TSHAdDZHAcREFORMED TSHAcSHAcSSAcZHAcZSHAcTSAcDZAcYI TSAcSAcZAcZSAcZZA",
  "cZZSAcARCHAIC ZZAcZZYAcZZSYAcWAcAHcHHAcBRIcSYIcDZYIcTEcTSEcRTE=16F4F",
  "bSIGN CONSONANT MODIFIER BARbLETTER NASALIZATIONbSIGN ASPIRATIONcREFORMED VOICINGdASPIRATION",
  "bVOWEL SIGN AdAAdAHHdANdANGdOdOOdWOdWdEdENdENGdOEYdIdIAdIANdIANGdIOdIEdIIdIUdINGdUdUAdUAN",
  "dUANGdUUdUEIdUNGdYdYIdAEdAEEdERRdnROUNDEDdERdnROUNDEDdAIdEIdAUdOUdNdNGdUOGdYUIdOGdOERdVWdIG",
  "dEAdIONGdUI=16F8FbTONE RIGHTcnTOPcABOVEcBELOWbLETTER TONE-2+6cREFORMED TONE-1+1dTONE-4+2",
  "dTONE-8=16FE0aTANGUT ITERATION MARKaoNUSHUanOLD CHINESE HOOKcnITERATION",
  "aKHITAN SMALL SCRIPT FILLER=16FF0aVIETNAMESE ALTERNATE READING MARK CAeNHAY=18800",
  "aTANGUT COMPONENT-001+767=1AFF0aKATAKANA LETTER MINNAN TONE-2+3=1AFF5dTONE-7+1",
  "dNASALIZED TONE-1+4=1AFFDeTONE-7+1"
]

end ApiRouter.Text.Name
